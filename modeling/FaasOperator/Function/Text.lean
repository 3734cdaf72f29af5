/-
# `FaasOperator.Function.Text` — the JSON text of a declaration

Writing puts the fields in a fixed order and absent ones as null, so that equal declarations have
equal texts.  Reading takes the fields in any order, or a list of them; it refuses a field that is
given twice and passes over fields that it does not know.
-/
import FaasOperator.Function.Spec
import FaasOperator.Kubernetes.Meta

namespace FaasOperator

open Json

/-! ## Writing -/

/-- Amounts that are absent are left out. -/
def FunctionResources.toJson (r : FunctionResources) : Json :=
  Json.present [("memory", r.memory.map .text), ("cpu", r.cpu.map .text)]

/-- Fields that are absent are written as null. -/
def FunctionSpec.toJson (s : FunctionSpec) : Json :=
  .record [
    ("name", .text s.name),
    ("image", .text s.image),
    ("replicas", Json.orNull (s.replicas.map fun n => Json.int n.toInt)),
    ("handler", .text s.handler),
    ("annotations", Json.orNull (s.annotations.map StringMap.toJson)),
    ("labels", Json.orNull (s.labels.map StringMap.toJson)),
    ("environment", Json.orNull (s.environment.map StringMap.toJson)),
    ("constraints", Json.orNull (s.constraints.map Json.texts)),
    ("secrets", Json.orNull (s.secrets.map Json.texts)),
    ("limits", Json.orNull (s.limits.map FunctionResources.toJson)),
    ("requests", Json.orNull (s.requests.map FunctionResources.toJson)),
    ("readOnlyRootFilesystem", .bool s.readOnlyRootFilesystem)]

/-- The compact text of a declaration. -/
def FunctionSpec.render (s : FunctionSpec) : String := s.toJson.render

/-! ## Reading -/

structure FunctionResources.Draft where
  memory : Option (Option String)
  cpu : Option (Option String)

namespace FunctionResources

def fields : List (RecordField Draft) := [
  .once "memory" (.nullable .string) (·.memory) (fun v d => { d with memory := some v }) true,
  .once "cpu" (.nullable .string) (·.cpu) (fun v d => { d with cpu := some v }) true]

/-- Fields that were not given are absent. -/
def ofDraft (d : Draft) : FunctionResources := ⟨d.memory.join, d.cpu.join⟩

def decode : Decoder FunctionResources := fun doc =>
  (Decoder.strict fields ⟨none, none⟩ doc).map ofDraft

end FunctionResources

structure FunctionSpec.Draft where
  name : Option String
  image : Option String
  replicas : Option (Option Int32)
  handler : Option String
  annotations : Option (Option (StringMap String))
  labels : Option (Option (StringMap String))
  environment : Option (Option (StringMap String))
  constraints : Option (Option (List String))
  secrets : Option (Option (List String))
  limits : Option (Option FunctionResources)
  requests : Option (Option FunctionResources)
  readOnlyRootFilesystem : Option Bool

namespace FunctionSpec

def Draft.blank : Draft :=
  ⟨none, none, none, none, none, none, none, none, none, none, none, none⟩

/-- The fields of a declaration, in order.  Those with a value of their own when they are missing
may be omitted at the end of the list form. -/
def fields : List (RecordField Draft) := [
  .once "name" .string (·.name) (fun v d => { d with name := some v }) true,
  .once "image" .string (·.image) (fun v d => { d with image := some v }) true,
  .once "replicas" (.nullable .int32) (·.replicas) (fun v d => { d with replicas := some v }) false,
  .once "handler" .string (·.handler) (fun v d => { d with handler := some v }) true,
  .once "annotations" (.nullable (.map .string)) (·.annotations)
    (fun v d => { d with annotations := some v }) false,
  .once "labels" (.nullable (.map .string)) (·.labels)
    (fun v d => { d with labels := some v }) false,
  .once "environment" (.nullable (.map .string)) (·.environment)
    (fun v d => { d with environment := some v }) false,
  .once "constraints" (.nullable (.list .string)) (·.constraints)
    (fun v d => { d with constraints := some v }) false,
  .once "secrets" (.nullable (.list .string)) (·.secrets)
    (fun v d => { d with secrets := some v }) false,
  .once "limits" (.nullable FunctionResources.decode) (·.limits)
    (fun v d => { d with limits := some v }) false,
  .once "requests" (.nullable FunctionResources.decode) (·.requests)
    (fun v d => { d with requests := some v }) false,
  .once "readOnlyRootFilesystem" .bool (·.readOnlyRootFilesystem)
    (fun v d => { d with readOnlyRootFilesystem := some v }) true]

/-- Texts that were not given are empty, a flag is off, and all else is absent. -/
def ofDraft (d : Draft) : FunctionSpec where
  name := d.name.getD ""
  image := d.image.getD ""
  replicas := d.replicas.join
  handler := d.handler.getD ""
  annotations := d.annotations.join
  labels := d.labels.join
  environment := d.environment.join
  constraints := d.constraints.join
  secrets := d.secrets.join
  limits := d.limits.join
  requests := d.requests.join
  readOnlyRootFilesystem := d.readOnlyRootFilesystem.getD false

def decode : Decoder FunctionSpec := fun doc =>
  (Decoder.strict fields .blank doc).map ofDraft

def parse (s : String) : Except Problem FunctionSpec := decodeText decode s

end FunctionSpec

end FaasOperator
