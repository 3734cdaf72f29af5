/-
# `FaasOperator.Json.Literal` — the inside of a string, read character by character

Two readers go over it at once: one that wants the characters and one that only skips to the closing
quote.  They differ on surrogates alone: an escape of half a pair is a flaw for the first and
nothing to the second.
-/
import FaasOperator.Json.Document

namespace FaasOperator.Json

/-- Where the reader stands within an escape.  The four bytes of a code unit are looked at together,
so a bad digit counts only once all four are there. -/
inductive Escape where
  | outside
  | backslash
  | unit (bytesLeft : Nat) (code : Option Nat)
deriving DecidableEq, Repr

/-- A string read in part: its characters, last first, the first flaw, and a leading surrogate that
waits for its partner. -/
structure TextScan where
  chars : List Char
  flaw : Option Problem
  leading : Option Nat
  escape : Escape
deriving Repr

/-- What a character does to a string. -/
inductive TextScan.Step where
  | more (t : TextScan)
  | closed (l : Literal)
  | cut (l : Literal)

namespace TextScan

def start : TextScan := ⟨[], none, none, .outside⟩

/-- A flaw at this point, unless there was one before. -/
def flawed (t : TextScan) : TextScan :=
  { t with flaw := t.flaw <|> some .malformed, leading := none, escape := .outside }

/-- Adds a character; a surrogate that waits in front of it stays alone. -/
def push (t : TextScan) (c : Char) : TextScan :=
  let t := if t.leading.isSome then t.flawed else t
  { t with chars := c :: t.chars, escape := .outside }

/-- The first half of a surrogate pair. -/
def isLeading (n : Nat) : Bool := 0xd800 ≤ n && n ≤ 0xdbff

/-- The second half of a surrogate pair. -/
def isTrailing (n : Nat) : Bool := 0xdc00 ≤ n && n ≤ 0xdfff

/-- Adds an escaped code unit. -/
def pushUnit (t : TextScan) (n : Nat) : TextScan :=
  match t.leading with
  | some h =>
      if isTrailing n then
        { t with leading := none }.push (Char.ofNat ((h - 0xd800) * 0x400 + (n - 0xdc00) + 0x10000))
      else t.flawed
  | none =>
      if isTrailing n then t.flawed
      else if isLeading n then { t with leading := some n, escape := .outside }
      else t.push (Char.ofNat n)

def close (t : TextScan) : Literal :=
  let t := if t.leading.isSome then t.flawed else t
  ⟨t.chars.reverse, t.flaw, none⟩

/-- The string ends here because of a problem. -/
def cutBy (t : TextScan) (p : Problem) : Literal :=
  ⟨t.chars.reverse, t.flaw <|> some p, some p⟩

def hexValue? (c : Char) : Option Nat :=
  if '0' ≤ c ∧ c ≤ '9' then some (c.toNat - '0'.toNat)
  else if 'a' ≤ c ∧ c ≤ 'f' then some (c.toNat - 'a'.toNat + 10)
  else if 'A' ≤ c ∧ c ≤ 'F' then some (c.toNat - 'A'.toNat + 10)
  else none

def shortEscape? : Char → Option Char
  | '"' => some '"'
  | '\\' => some '\\'
  | '/' => some '/'
  | 'b' => some '\x08'
  | 'f' => some '\x0c'
  | 'n' => some '\n'
  | 'r' => some '\r'
  | 't' => some '\t'
  | _ => none

/-- The effect of one character. -/
def step (t : TextScan) (c : Char) : Step :=
  match t.escape with
  | .outside =>
      if c = '"' then .closed t.close
      else if c = '\\' then .more { t with escape := .backslash }
      else if c.toNat < 0x20 then .cut (t.cutBy .malformed)
      else .more (t.push c)
  | .backslash =>
      if c = 'u' then .more { t with escape := .unit 4 (some 0) }
      else
        match shortEscape? c with
        | some e => .more (t.push e)
        | none => .cut (t.cutBy .malformed)
  | .unit left code =>
      let code := match code, hexValue? c with
        | some n, some d => some (n * 16 + d)
        | _, _ => none
      if c.utf8Size < left then .more { t with escape := .unit (left - c.utf8Size) code }
      else
        match code with
        | some n => .more (t.pushUnit n)
        | none => .cut (t.cutBy .malformed)

end TextScan

end FaasOperator.Json
