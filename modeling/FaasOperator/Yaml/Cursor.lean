/-
# `FaasOperator.Yaml.Cursor` — places in a YAML text

A cursor stands in front of the characters that are still to be read and knows its line and column;
only the kinds of characters that YAML tells apart are named here.
-/
namespace FaasOperator.Yaml

/-- A line and a column, both counted from zero. -/
structure Mark where
  line : Nat
  column : Nat
deriving DecidableEq, Repr

namespace Mark

def start : Mark := ⟨0, 0⟩

/-- How the place is told at the end of a message.  The start of the text is not told. -/
def suffix (m : Mark) : String :=
  if m = start then ""
  else " at line " ++ toString (m.line + 1) ++ " column " ++ toString (m.column + 1)

end Mark

/-! ## Kinds of characters -/

def isBlank (c : Char) : Bool := c == ' ' || c == '\t'

/-- A character that ends a line. -/
def isBreak (c : Char) : Bool :=
  c == '\n' || c == '\r' || c == '\u0085' || c == '\u2028' || c == '\u2029'

/-- A character that separates words. -/
def isGap (c : Char) : Bool := isBlank c || isBreak c

def isNameChar (c : Char) : Bool := c.isAlphanum || c == '_' || c == '-'

def isHexDigit (c : Char) : Bool :=
  c.isDigit || ('a' ≤ c && c ≤ 'f') || ('A' ≤ c && c ≤ 'F')

def hexValue (cs : List Char) : Nat :=
  cs.foldl (fun n c => n * 16 +
    (if c.isDigit then c.toNat - '0'.toNat
     else if 'a' ≤ c then c.toNat - 'a'.toNat + 10
     else c.toNat - 'A'.toNat + 10)) 0

/-- What a line break stands for inside a scalar: the breaks of the typewriter are one and the same.
-/
def breakText (c : Char) : Char := if c == '\u2028' || c == '\u2029' then c else '\n'

/-- A place in a text. -/
structure Cursor where
  /-- What follows. -/
  rest : List Char
  /-- How many characters are behind. -/
  index : Nat
  mark : Mark

namespace Cursor

def start (text : List Char) : Cursor := ⟨text, 0, .start⟩

def peek? (n : Nat) (c : Cursor) : Option Char := c.rest[n]?

/-- The next character is one of a kind. -/
def sees (p : Char → Bool) (c : Cursor) : Bool := c.rest.head?.any p

/-- At a distance a word has ended: there is a blank, a line break, or nothing. -/
def wordEnds (n : Nat) (c : Cursor) : Bool := (c.peek? n).all isGap

/-- Passes characters of one line. -/
def skip (n : Nat) (c : Cursor) : Cursor :=
  ⟨c.rest.drop n, c.index + n, ⟨c.mark.line, c.mark.column + n⟩⟩

/-- Passes a line break, which may be a pair of characters. -/
def skipBreak (c : Cursor) : Cursor :=
  match c.rest with
  | '\r' :: '\n' :: cs => ⟨cs, c.index + 2, ⟨c.mark.line + 1, 0⟩⟩
  | _ :: cs => ⟨cs, c.index + 1, ⟨c.mark.line + 1, 0⟩⟩
  | [] => c

def skipBreak? (c : Cursor) : Cursor := if c.sees isBreak then c.skipBreak else c

/-- Takes the characters of one kind that follow on the line. -/
def takeWhile (p : Char → Bool) (c : Cursor) : List Char × Cursor :=
  let cs := c.rest.takeWhile p
  (cs, c.skip cs.length)

/-- Passes the characters of one kind that follow on the line. -/
def skipWhile (p : Char → Bool) (c : Cursor) : Cursor := (c.takeWhile p).2

def skipComment (c : Cursor) : Cursor :=
  if c.sees (· == '#') then c.skipWhile (!isBreak ·) else c

/-- The mark between documents, or the one that ends a document, stands here. -/
def seesDocumentMark (c : Cursor) (dash : Char) : Bool :=
  c.mark.column == 0 && c.rest.take 3 == [dash, dash, dash] && c.wordEnds 3

/-- A mark of either kind stands here. -/
def seesDocumentEdge (c : Cursor) : Bool := c.seesDocumentMark '-' || c.seesDocumentMark '.'

theorem length_rest_skip (n : Nat) (c : Cursor) : (c.skip n).rest.length = c.rest.length - n := by
  simp [skip]

theorem length_rest_skipBreak_lt (c : Cursor) (h : c.rest ≠ []) :
    c.skipBreak.rest.length < c.rest.length := by
  unfold skipBreak
  split
  · next h => simp only [h, List.length_cons]; omega
  · next h => simp only [h, List.length_cons]; omega
  · next h' => exact absurd h' h

end Cursor

end FaasOperator.Yaml
