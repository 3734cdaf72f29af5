/-
# `FaasOperator.Json.Document` — a JSON text, read as far as it goes

Reading a text never fails as a whole: it gives the values up to the first place where the text
stops being JSON, and says there what is wrong.  A decoder then walks the document from left to
right, and the first problem that it meets decides; a value of the wrong kind in front of the place
where the text breaks off is met before it.

A reader that wants a value and one that skips it do not meet the same problems, so a document keeps
both where they differ.
-/
import FaasOperator.Json
import FaasOperator.StringMap

namespace FaasOperator.Json

/-- What keeps a text from being decoded. -/
inductive Problem where
  /-- The text ends too early. -/
  | truncated
  /-- The text is not JSON at this point. -/
  | malformed
  /-- The value is not one that is wanted here. -/
  | mismatch
deriving DecidableEq, Repr

/-- A string of the text.  `flaw` is what a reader that wants the characters meets first; `cut` is
what a reader that only skips the string meets.  A lone surrogate is a flaw and no cut. -/
structure Literal where
  chars : List Char
  flaw : Option Problem
  cut : Option Problem
deriving DecidableEq, Repr, Inhabited

/-- The string itself, if it is sound. -/
def Literal.value (l : Literal) : Except Problem String :=
  match l.flaw with
  | some p => .error p
  | none => .ok (String.ofList l.chars)

/-- A string without a flaw. -/
def Literal.sound (cs : List Char) : Literal := ⟨cs, none, none⟩

/-- A value of the text.  A list or a record that is not closed is `cut` by a problem, and so is
every one around it; `broken` stands where a value should start and none does, with what a reader
that wants the value reports and what one that skips it reports. -/
inductive Document where
  | null
  | bool (b : Bool)
  | number (n : Numeral)
  | text (l : Literal)
  | list (items : List Document) (cut : Option Problem)
  | record (members : List (Literal × Document)) (cut : Option Problem)
  | broken (wanted skipped : Problem)
deriving Inhabited

namespace Document

/-- What a reader meets that skips the value. -/
def skipProblem : Document → Option Problem
  | .text l => l.cut
  | .list _ cut => cut
  | .record _ cut => cut
  | .broken _ skipped => some skipped
  | .null | .bool _ | .number _ => none

/-- What a reader meets that wants a value of another kind.  Strings and numbers are read to their
end before their kind is looked at, lists and records are not. -/
def mismatchProblem : Document → Problem
  | .text l => l.flaw.getD .mismatch
  | .number n => if n.isTooLarge then .malformed else .mismatch
  | .broken wanted _ => wanted
  | .null | .bool _ | .list _ _ | .record _ _ => .mismatch

end Document

mutual

/-- The document of a value, nothing being wrong with it. -/
def toDocument : Json → Document
  | .null => .null
  | .bool b => .bool b
  | .number n => .number n
  | .text s => .text (.sound s.toList)
  | .list vs => .list (toItems vs) none
  | .record ms => .record (toMembers ms) none

def toItems : List Json → List Document
  | [] => []
  | v :: vs => toDocument v :: toItems vs

def toMembers : List (String × Json) → List (Literal × Document)
  | [] => []
  | (k, v) :: ms => (.sound k.toList, toDocument v) :: toMembers ms

end

mutual

/-- The value of a document with which nothing is wrong.  Records come out in the order of their
keys, and of two members with one key the later one stays. -/
def ofDocument? : Document → Option Json
  | .null => some .null
  | .bool b => some (.bool b)
  | .number n => some (.number n)
  | .text l => match l.value with
      | .ok s => some (.text s)
      | .error _ => none
  | .list vs none => (ofItems? vs).map .list
  | .record ms none => (ofMembers? ms).map fun es => .record (StringMap.ofList es).entries
  | .list _ (some _) | .record _ (some _) | .broken _ _ => none

def ofItems? : List Document → Option (List Json)
  | [] => some []
  | v :: vs => match ofDocument? v, ofItems? vs with
      | some v, some vs => some (v :: vs)
      | _, _ => none

/-- The members of a record, with their keys. -/
def ofMembers? : List (Literal × Document) → Option (List (String × Json))
  | [] => some []
  | (k, v) :: ms => match k.value, ofDocument? v, ofMembers? ms with
      | .ok k, some v, some ms => some ((k, v) :: ms)
      | _, _, _ => none

end

end FaasOperator.Json
