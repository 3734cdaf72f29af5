/-
# `FaasOperator.Json.Decoder` — decoding documents into typed values

A decoder reports the first problem from left to right.  Records come in two kinds: strict ones,
which refuse a repeated field and may also be written as a list of their fields in order, and open
ones, of which a repeated field counts as written last.  Both skip fields that they do not know,
whatever stands there, as long as it can be skipped.
-/
import FaasOperator.Json.Reader

namespace FaasOperator.Json

/-- What a document says as a value of a type, or the first problem. -/
abbrev Decoder (α : Type u) := Document → Except Problem α

namespace Decoder

variable {α : Type} {δ : Type}

def string : Decoder String
  | .text l => l.value
  | d => .error d.mismatchProblem

def bool : Decoder Bool
  | .bool b => .ok b
  | d => .error d.mismatchProblem

/-- An integer between the bounds, both included.  A number too large for a double is no number at
all, and one with a point or an exponent is no integer. -/
def intBetween (lo hi : Int) : Decoder Int
  | .number n =>
      if n.isTooLarge then .error .malformed
      else
        match n.toInt? with
        | some i => if lo ≤ i ∧ i ≤ hi then .ok i else .error .mismatch
        | none => .error .mismatch
  | d => .error d.mismatchProblem

def int32 : Decoder Int32 := fun d =>
  (intBetween Int32.minValue.toInt Int32.maxValue.toInt d).map Int32.ofInt

def int64 : Decoder Int64 := fun d =>
  (intBetween Int64.minValue.toInt Int64.maxValue.toInt d).map Int64.ofInt

def uint16 : Decoder UInt16 := fun d =>
  (intBetween 0 (UInt16.size - 1 : Nat) d).map fun i => .ofNat i.toNat

def uint64 : Decoder UInt64 := fun d =>
  (intBetween 0 (UInt64.size - 1 : Nat) d).map fun i => .ofNat i.toNat

/-- A value that may be null. -/
def nullable (decode : Decoder α) : Decoder (Option α)
  | .null => .ok none
  | d => (decode d).map some

/-! ## Lists and maps -/

/-- What a list or a record with this ending is worth once its parts are read. -/
def closed (cut : Option Problem) (a : α) : Except Problem α :=
  match cut with
  | none => .ok a
  | some p => .error p

/-- The items in order. -/
def items (decode : Decoder α) (cut : Option Problem) : List Document → Except Problem (List α)
  | [] => closed cut []
  | d :: ds =>
      match decode d with
      | .error p => .error p
      | .ok a => (items decode cut ds).map (a :: ·)

def list (decode : Decoder α) : Decoder (List α)
  | .list ds cut => items decode cut ds
  | d => .error d.mismatchProblem

/-- The members in order, each put into the map. -/
def entries (decode : Decoder α) (cut : Option Problem) :
    List (Literal × Document) → StringMap α → Except Problem (StringMap α)
  | [], m => closed cut m
  | (key, d) :: ms, m =>
      match key.value with
      | .error p => .error p
      | .ok k =>
          match decode d with
          | .error p => .error p
          | .ok a => entries decode cut ms (m.insert k a)

/-- A map from strings; of two members with one key the later one stays. -/
def map (decode : Decoder α) : Decoder (StringMap α)
  | .record ms cut => entries decode cut ms ∅
  | d => .error d.mismatchProblem

end Decoder

/-! ## Records -/

/-- A field of a record under construction.  `omissible` says that the list form of the record may
end in front of it. -/
structure RecordField (δ : Type) where
  name : String
  read : Document → δ → Except Problem δ
  omissible : Bool

namespace RecordField

variable {α : Type} {δ : Type}

/-- A field that may be given once. -/
def once (name : String) (decode : Decoder α) (get : δ → Option α) (set : α → δ → δ)
    (omissible : Bool) : RecordField δ where
  name := name
  read := fun doc r => if (get r).isSome then .error .mismatch else (decode doc).map (set · r)
  omissible := omissible

/-- A field that may be given any number of times, null meaning that it is absent. -/
def last (name : String) (decode : Decoder α) (set : Option α → δ → δ) : RecordField δ where
  name := name
  read := fun doc r => (Decoder.nullable decode doc).map (set · r)
  omissible := true

/-- A field that may only have this one value. -/
def fixed (name value : String) : RecordField δ where
  name := name
  read := fun doc r =>
    match Decoder.string doc with
    | .error p => .error p
    | .ok s => if s = value then .ok r else .error .mismatch
  omissible := true

/-- The field of that name. -/
def find? (fields : List (RecordField δ)) (name : String) : Option (RecordField δ) :=
  fields.find? fun f => f.name == name

end RecordField

namespace Decoder

variable {δ : Type}

/-- The members of a record in order.  A value under an unknown key is skipped. -/
def members (fields : List (RecordField δ)) (cut : Option Problem) :
    List (Literal × Document) → δ → Except Problem δ
  | [], r => closed cut r
  | (key, d) :: ms, r =>
      match key.value with
      | .error p => .error p
      | .ok k =>
          match RecordField.find? fields k with
          | some f =>
              match f.read d r with
              | .error p => .error p
              | .ok r => members fields cut ms r
          | none =>
              match d.skipProblem with
              | some p => .error p
              | none => members fields cut ms r

/-- The fields of a record written as a list.  More items than fields are refused; fewer are in
order only if every field that is left may be omitted. -/
def positions (cut : Option Problem) : List (RecordField δ) → List Document → δ → Except Problem δ
  | [], [], r => closed cut r
  | [], _ :: _, _ => .error .malformed
  | f :: fs, [], r =>
      match cut with
      | some p => .error p
      | none => if (f :: fs).all (·.omissible) then .ok r else .error .mismatch
  | f :: fs, d :: ds, r =>
      match f.read d r with
      | .error p => .error p
      | .ok r => positions cut fs ds r

/-- A strict record. -/
def strict (fields : List (RecordField δ)) (start : δ) : Decoder δ
  | .record ms cut => members fields cut ms start
  | .list ds cut => positions cut fields ds start
  | d => .error d.mismatchProblem

/-- An open record. -/
def openRecord (fields : List (RecordField δ)) (start : δ) : Decoder δ
  | .record ms cut => members fields cut ms start
  | d => .error d.mismatchProblem

end Decoder

end FaasOperator.Json
