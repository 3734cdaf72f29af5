/-
# `FaasOperator.Text.Pattern` — well-formed patterns

Regular expressions without counted repetitions, word boundaries and looking around.  Only whether a
text is one is of interest here; a pattern is read part by part, with a count of the groups that are
open.
-/
import FaasOperator.Text
import FaasOperator.Text.Alphanumeric

namespace FaasOperator.Text

namespace Pattern

/-! ## Escapes -/

/-- What an escape stands for. -/
inductive Escape where
  | char (code : Nat)
  /-- Any of several characters. -/
  | set
  /-- A place in the text. -/
  | position
deriving DecidableEq, Repr

def isHexDigit (c : Char) : Bool :=
  c.isDigit || ('a' ≤ c && c ≤ 'f') || ('A' ≤ c && c ≤ 'F')

def hexValue (c : Char) : Nat :=
  if c.isDigit then c.toNat - 48 else if 'a' ≤ c then c.toNat - 87 else c.toNat - 55

/-- The character of so many hexadecimal digits. -/
def codePoint? (digits : Nat) (cs : List Char) : Option (Escape × List Char) :=
  let ds := cs.take digits
  let code := ds.foldl (fun n c => 16 * n + hexValue c) 0
  if ds.length = digits ∧ ds.all isHexDigit = true ∧ code.isValidChar then
    some (.char code, cs.drop digits)
  else none

/-- The letters that stand for a control character, and the two that stand for a place. -/
def letterEscapes : List (Char × Escape) :=
  [('a', .char 7), ('f', .char 12), ('t', .char 9), ('n', .char 10), ('r', .char 13),
    ('v', .char 11), ('A', .position), ('z', .position)]

/-- The letters that stand for digits, blanks and characters of words, and for all others. -/
def setLetters : List Char := ['d', 's', 'w', 'D', 'S', 'W']

def categoryLetters : List Char :=
  ['C', 'L', 'M', 'N', 'P', 'S', 'Z', 'c', 'l', 'm', 'n', 'p', 's', 'z']

/-- A sign of ASCII, which stands for itself behind a backslash; angle brackets do not. -/
def isSign (c : Char) : Bool :=
  c.toNat < 0x80 && !c.isAlphanum && c != '<' && c != '>'

/-- An escape, the backslash being in front of these characters. -/
def escape? : List Char → Option (Escape × List Char)
  | 'x' :: cs => codePoint? 2 cs
  | 'u' :: cs => codePoint? 4 cs
  | 'U' :: cs => codePoint? 8 cs
  | 'p' :: c :: cs | 'P' :: c :: cs => if categoryLetters.contains c then some (.set, cs) else none
  | c :: cs =>
      if setLetters.contains c then some (.set, cs)
      else if isSign c then some (.char c.toNat, cs)
      else (letterEscapes.lookup c).map fun e => (e, cs)
  | [] => none

/-! ## Sets in brackets -/

/-- The names of sets of ASCII characters. -/
def asciiSets : List String :=
  ["alnum", "alpha", "ascii", "blank", "cntrl", "digit", "graph", "lower", "print", "punct",
    "space", "upper", "word", "xdigit"]

def dropCaret : List Char → List Char
  | '^' :: cs => cs
  | cs => cs

/-- What follows a named set, the bracket that opens it being in front of these characters. -/
def afterAsciiSet? : List Char → Option (List Char)
  | ':' :: cs =>
      match cut? ':' (dropCaret cs) with
      | some (name, ']' :: rest) =>
          if asciiSets.contains (String.ofList name) then some rest else none
      | _ => none
  | _ => none

/-- What follows the opening of a set, the bracket being in front of these characters: a caret, and
dashes or a closing bracket that stand for themselves. -/
def afterOpening (cs : List Char) : List Char :=
  match dropCaret cs with
  | ']' :: rest => rest
  | rest => rest.dropWhile (· == '-')

/-- One item of a set. -/
def item? : List Char → Option (Escape × List Char)
  | '\\' :: cs => escape? cs
  | c :: cs => some (.char c.toNat, cs)
  | [] => none

/-- What follows an item, or a range between two characters. -/
def afterRange? (cs : List Char) : Option (List Char) :=
  match item? cs with
  | none | some (.position, _) => none
  | some (first, rest) =>
      match rest with
      | '-' :: ']' :: _ | '-' :: '-' :: _ => some rest
      | '-' :: others =>
          match first, item? others with
          | .char lo, some (.char hi, rest) => if lo ≤ hi then some rest else none
          | _, _ => none
      | _ => some rest

/-- What follows the bracket that closes a set, so many sets being open around the innermost one; at
most so many items are read. -/
def afterSet? : Nat → Nat → List Char → Option (List Char)
  | 0, _, _ => none
  | n + 1, depth, cs =>
      match cs with
      | [] => none
      | ']' :: rest =>
          match depth with
          | 0 => some rest
          | depth + 1 => afterSet? n depth rest
      | '[' :: rest =>
          match afterAsciiSet? rest with
          | some rest => afterSet? n depth rest
          | none => afterSet? n (depth + 1) (afterOpening rest)
      | '&' :: '&' :: rest | '-' :: '-' :: rest | '~' :: '~' :: rest => afterSet? n depth rest
      | cs =>
          match afterRange? cs with
          | some rest => afterSet? n depth rest
          | none => none

/-! ## Groups -/

def flagLetters : List Char := ['i', 'm', 's', 'U', 'u', 'x', 'R', '-']

/-- Flags: each at most once, and none missing behind the dash. -/
def areFlags (cs : List Char) : Bool :=
  cs.all flagLetters.contains && cs.eraseDups.length == cs.length && cs.getLast? != some '-'

/-- The name of a group. -/
def isName : List Char → Bool
  | [] => false
  | c :: cs =>
      (c == '_' || (isAlphanumeric c && !c.isDigit)) &&
        cs.all fun c => c == '_' || c == '.' || c == '[' || c == ']' || isAlphanumeric c

/-- How far a pattern has been read. -/
structure State where
  /-- How many groups are open. -/
  depth : Nat
  /-- There is something that a repetition could repeat. -/
  repeatable : Bool
  /-- The names of the groups so far. -/
  names : List (List Char)
deriving DecidableEq, Repr

/-- Opens a group, the bracket being in front of these characters. -/
def openGroup? (s : State) (cs : List Char) : Option (State × List Char) :=
  let inside : State := { s with depth := s.depth + 1, repeatable := false }
  let named := fun cs => match cut? '>' cs with
    | some (name, rest) =>
        if isName name && !s.names.contains name then
          some ({ inside with names := name :: s.names }, rest)
        else none
    | none => none
  match cs with
  | '?' :: 'P' :: '<' :: cs => named cs
  | '?' :: '<' :: cs => named cs
  | '?' :: cs =>
      let flags := cs.takeWhile fun c => c != ':' && c != ')'
      match cs.dropWhile fun c => c != ':' && c != ')' with
      | ':' :: rest => if areFlags flags then some (inside, rest) else none
      | ')' :: rest =>
          if areFlags flags && !flags.isEmpty then some ({ s with repeatable := false }, rest)
          else none
      | _ => none
  | cs => some (inside, cs)

/-! ## Patterns -/

def dropLazyMark : List Char → List Char
  | '?' :: cs => cs
  | cs => cs

/-- What one part of a pattern makes of the state, and what follows it. -/
def part? (s : State) : List Char → Option (State × List Char)
  | [] => none
  | '(' :: cs => openGroup? s cs
  | ')' :: cs =>
      match s.depth with
      | 0 => none
      | depth + 1 => some ({ s with depth := depth, repeatable := true }, cs)
  | '|' :: cs => some ({ s with repeatable := false }, cs)
  | '*' :: cs | '+' :: cs | '?' :: cs => if s.repeatable then some (s, dropLazyMark cs) else none
  | '{' :: _ => none
  | '[' :: cs =>
      (afterSet? (cs.length + 1) 0 (afterOpening cs)).map fun rest =>
        ({ s with repeatable := true }, rest)
  | '\\' :: cs => (escape? cs).map fun e => ({ s with repeatable := true }, e.2)
  | _ :: cs => some ({ s with repeatable := true }, cs)

/-- At most so many parts, with no group left open. -/
def isWhole : Nat → State → List Char → Bool
  | _, s, [] => s.depth == 0
  | 0, _, _ => false
  | n + 1, s, cs =>
      match part? s cs with
      | some (s, rest) => isWhole n s rest
      | none => false

end Pattern

/-- A well-formed pattern. -/
def isPattern (cs : List Char) : Bool := Pattern.isWhole cs.length ⟨0, false, []⟩ cs

end FaasOperator.Text
