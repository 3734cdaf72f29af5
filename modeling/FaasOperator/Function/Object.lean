/-
# `FaasOperator.Function.Object` — a function as the API server stores it

The declaration under its metadata, with the replica count that was reported last.  A function that
was stored has a name and a uid, and can refer to itself as the owner of what is made for it
(`ownerReference?`).  Reading is strict about the function's own fields: a repeated one is refused,
and a missing `spec` as well.
-/
import FaasOperator.Function.Text

namespace FaasOperator

/-- How many replicas were last seen ready. -/
structure FunctionStatus where
  availableReplicas : Int32
deriving DecidableEq

/-- A stored function. -/
structure FunctionObject where
  metadata : ObjectMeta
  spec : FunctionSpec
  status : Option FunctionStatus
deriving DecidableEq

namespace FunctionObject

/-- The group and version of the API that functions belong to. -/
def apiVersion : String := "openfaas.com/v1alpha2"

/-- The kind of object that a function is. -/
def kind : String := "Function"

/-- A reference by which the function controls what it owns.  A function that was never stored has
no name or no uid, and cannot own anything. -/
def ownerReference? (f : FunctionObject) : Option OwnerReference :=
  match f.metadata.name, f.metadata.uid with
  | some name, some uid => some ⟨apiVersion, kind, name, uid, some true, some true⟩
  | _, _ => none

end FunctionObject

/-! ## Written form -/

open Json

def FunctionStatus.toJson (s : FunctionStatus) : Json :=
  .record [("availableReplicas", Json.int s.availableReplicas.toInt)]

def FunctionObject.toJson (f : FunctionObject) : Json :=
  Json.present [
    ("apiVersion", some (.text apiVersion)),
    ("kind", some (.text kind)),
    ("metadata", some f.metadata.toJson),
    ("spec", some f.spec.toJson),
    ("status", f.status.map FunctionStatus.toJson)]

/-- Reads a status; a count that is missing is zero. -/
def FunctionStatus.decode : Decoder FunctionStatus := fun doc =>
  (Decoder.strict
    [.once "availableReplicas" .int32 id (fun v _ => some v) true] none doc).map
      fun n => ⟨n.getD 0⟩

/-- A function read in part. -/
structure FunctionObject.Draft where
  metadata : Option ObjectMeta
  spec : Option FunctionSpec
  status : Option (Option FunctionStatus)

namespace FunctionObject

def fields : List (RecordField Draft) := [
  .once "metadata" ObjectMeta.decode (·.metadata) (fun v d => { d with metadata := some v }) false,
  .once "spec" FunctionSpec.decode (·.spec) (fun v d => { d with spec := some v }) false,
  .once "status" (.nullable FunctionStatus.decode) (·.status)
    (fun v d => { d with status := some v }) false]

/-- Metadata and declaration must be there. -/
def ofDraft (d : Draft) : Except Problem FunctionObject :=
  match d.metadata, d.spec with
  | some metadata, some spec => .ok ⟨metadata, spec, d.status.join⟩
  | _, _ => .error .mismatch

def decode : Decoder FunctionObject := fun doc =>
  match Decoder.strict fields ⟨none, none, none⟩ doc with
  | .error p => .error p
  | .ok d => ofDraft d

def parse (s : String) : Except Problem FunctionObject := decodeText decode s

end FunctionObject

end FaasOperator
