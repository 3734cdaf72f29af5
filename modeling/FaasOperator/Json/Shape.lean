/-
# `FaasOperator.Json.Shape` — shapes of values

A shape says which documents are taken for a value and how the value is written afterwards: unknown
members are dropped, times are written in UTC, and where a field was missing that is always written,
it is written blank.  Objects of the API keep whatever the operator does not use in this form.
-/
import FaasOperator.Json.Decoder
import FaasOperator.Json.Equality
import FaasOperator.Timestamp

namespace FaasOperator.Json

/-- What becomes of a record without one of its fields. -/
inductive Presence where
  /-- It is written without the field. -/
  | optional
  /-- It is written with a blank field. -/
  | blank
  /-- It is refused. -/
  | required
deriving DecidableEq, Repr

/-- A field of a record by name. -/
structure Label where
  name : String
  presence : Presence
deriving DecidableEq, Repr

inductive Shape where
  | any
  | text
  | flag
  | int32
  | int64
  | numberOrText
  /-- A point in time, written to the second. -/
  | time
  /-- A point in time, written to the microsecond. -/
  | microTime
  | list (item : Shape)
  | map (value : Shape)
  | record (fields : List (Label × Shape))
deriving Inhabited

/-- Members of a record by key. -/
abbrev Members := StringMap Json

namespace Members

/-- Gives a key its value, or takes the key out. -/
def put (k : String) (v : Option Json) (ms : Members) : Members :=
  match v with
  | some v => ms.insert k v
  | none => ms.erase k

end Members

namespace Shape

def texts : Shape := .list .text

def textMap : Shape := .map .text

/-- Fields of one shape that may be missing. -/
def optional (shape : Shape) (names : List String) : List (Label × Shape) :=
  names.map fun name => (⟨name, .optional⟩, shape)

/-- Fields of one shape that are blank where they are missing. -/
def blank (shape : Shape) (names : List String) : List (Label × Shape) :=
  names.map fun name => (⟨name, .blank⟩, shape)

/-- Fields of one shape that cannot be missing. -/
def required (shape : Shape) (names : List String) : List (Label × Shape) :=
  names.map fun name => (⟨name, .required⟩, shape)

/-! ## Blank values -/

mutual

/-- The value of a field that is always written and was missing. -/
def blankValue : Shape → Json
  | .any | .time | .microTime => .null
  | .text => .text ""
  | .flag => .bool false
  | .int32 | .int64 | .numberOrText => Json.int 0
  | .list _ => .list []
  | .map _ => .record []
  | .record fs => .record (blankMembers fs)

/-- The members of a blank record. -/
def blankMembers : List (Label × Shape) → List (String × Json)
  | [] => []
  | (l, s) :: fs =>
      if l.presence = .blank then (l.name, blankValue s) :: blankMembers fs else blankMembers fs

end

/-- The members of a record, completed by blank ones; none if one is missing that cannot be. -/
def complete? : List (Label × Shape) → Members → Option Members
  | [], ms => some ms
  | (l, s) :: fs, ms =>
      match ms.get? l.name, l.presence with
      | some _, _ | none, .optional => complete? fs ms
      | none, .blank => complete? fs (ms.insert l.name s.blankValue)
      | none, .required => none

/-! ## Reading -/

/-- How deep a value of any shape can be nested. -/
def deepest : Nat := 123

mutual

/-- Any value, nested at most so deep. -/
def decodeAny (depth : Nat) : Document → Except Problem Json
  | .null => .ok .null
  | .bool b => .ok (.bool b)
  | .number n => if n.isTooLarge then .error .malformed else .ok (.number n)
  | .text l => l.value.map .text
  | .list ds cut =>
      match depth with
      | 0 => .error .malformed
      | depth + 1 => (decodeAnyItems depth cut ds).map .list
  | .record ms cut =>
      match depth with
      | 0 => .error .malformed
      | depth + 1 => (decodeAnyMembers depth cut ms ∅).map fun ms => .record ms.entries
  | .broken wanted _ => .error wanted

/-- Any values in a row. -/
def decodeAnyItems (depth : Nat) (cut : Option Problem) : List Document → Except Problem (List Json)
  | [] => Decoder.closed cut []
  | d :: ds =>
      match decodeAny depth d with
      | .error p => .error p
      | .ok v => (decodeAnyItems depth cut ds).map (v :: ·)

/-- Any values under keys; of two with one key the later one stays. -/
def decodeAnyMembers (depth : Nat) (cut : Option Problem) :
    List (Literal × Document) → Members → Except Problem Members
  | [], ms => Decoder.closed cut ms
  | (key, d) :: rest, ms =>
      match key.value with
      | .error p => .error p
      | .ok k =>
          match decodeAny depth d with
          | .error p => .error p
          | .ok v => decodeAnyMembers depth cut rest (ms.insert k v)

end

/-- A number of 32 bits or a text. -/
def decodeNumberOrText : Decoder Json
  | .text l => l.value.map .text
  | d => (Decoder.int32 d).map fun n => Json.int n.toInt

/-- A point in time, written with so many places of the second's fraction. -/
def decodeTime (places : Nat) : Decoder Json := fun d =>
  match Decoder.string d with
  | .error p => .error p
  | .ok s =>
      match Timestamp.parse? s with
      | some t => .ok (.text (t.render places))
      | none => .error .mismatch

mutual

def decode : Shape → Decoder Json
  | .any => decodeAny deepest
  | .text => fun d => (Decoder.string d).map .text
  | .flag => fun d => (Decoder.bool d).map .bool
  | .int32 => fun d => (Decoder.int32 d).map fun n => Json.int n.toInt
  | .int64 => fun d => (Decoder.int64 d).map fun n => Json.int n.toInt
  | .numberOrText => decodeNumberOrText
  | .time => decodeTime 0
  | .microTime => decodeTime 6
  | .list s => fun d => (Decoder.list (decode s) d).map .list
  | .map s => fun d => (Decoder.map (decode s) d).map fun m => .record m.entries
  | .record fs => fun d =>
      match Decoder.openRecord (readers fs) ∅ d with
      | .error p => .error p
      | .ok ms =>
          match complete? fs ms with
          | some ms => .ok (.record ms.entries)
          | none => .error .mismatch

/-- What each field of a record puts among the members. -/
def readers : List (Label × Shape) → List (RecordField Members)
  | [] => []
  | (l, s) :: fs => .last l.name (decode s) (Members.put l.name) :: readers fs

end

end Shape

/-- A record of the members that are present, and of others. -/
def presentWith (other : Members) (members : List (String × Option Json)) : Json :=
  .record (members.filterMap (fun (k, v) => v.map (k, ·)) ++ other.entries)

/-- The fields of these shapes, all of which end up among the members of something larger.  Behind
other fields they stand back: of two fields with one name the first one is read. -/
def RecordField.members (fields : List (Label × Shape)) (update : (Members → Members) → δ → δ) :
    List (RecordField δ) :=
  fields.map fun (l, s) => .last l.name s.decode fun v r => update (Members.put l.name v) r

/-- An open record with fields of its own, and others that it keeps among its members. -/
def Decoder.extended (fields : List (RecordField δ)) (others : List (Label × Shape))
    (update : (Members → Members) → δ → δ) (start : δ) : Decoder δ :=
  openRecord (fields ++ RecordField.members others update) start

end FaasOperator.Json
