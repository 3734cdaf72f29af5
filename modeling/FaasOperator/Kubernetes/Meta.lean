/-
# `FaasOperator.Kubernetes.Meta` — what every Kubernetes object carries

Its metadata, and references to the objects that own it.  Objects have far more fields than the
operator makes use of; the others are kept with each object as they are, in a field `other` that
every record of the API has here.
-/
import FaasOperator.Kubernetes.Shapes.Meta
import FaasOperator.ResourceKey

namespace FaasOperator

/-- A reference to an owning object. -/
structure OwnerReference where
  apiVersion : String
  kind : String
  name : String
  uid : String
  controller : Option Bool
  blockOwnerDeletion : Option Bool
deriving DecidableEq

structure ObjectMeta where
  name : Option String
  ns : Option String
  uid : Option String
  generateName : Option String
  resourceVersion : Option String
  generation : Option Int64
  labels : Option (StringMap String)
  annotations : Option (StringMap String)
  finalizers : Option (List String)
  ownerReferences : Option (List OwnerReference)
  other : Json.Members := ∅
deriving DecidableEq

/-- The first reference that claims to control the object. -/
def controllerOf? (refs : List OwnerReference) : Option OwnerReference :=
  refs.find? fun r => r.controller == some true

namespace ObjectMeta

def empty : ObjectMeta := ⟨none, none, none, none, none, none, none, none, none, none, ∅⟩

/-- The name, or the stem of a name that the server is to complete, or nothing. -/
def anyName (m : ObjectMeta) : String := (m.name <|> m.generateName).getD ""

/-- The namespace, or nothing. -/
def anyNamespace (m : ObjectMeta) : String := m.ns.getD ""

/-- The first owner that claims control. -/
def controller? (m : ObjectMeta) : Option OwnerReference :=
  controllerOf? (m.ownerReferences.getD [])

def annotation? (m : ObjectMeta) (key : String) : Option String :=
  m.annotations.bind (·.get? key)

/-- The key of the object, if it has both a namespace and a name. -/
def key? (m : ObjectMeta) : Option ResourceKey :=
  match m.ns, m.name with
  | some ns, some name => if ns.isEmpty || name.isEmpty then none else some ⟨ns, name⟩
  | _, _ => none

end ObjectMeta

/-! ## Written form -/

open Json

def StringMap.toJson (m : StringMap String) : Json :=
  .record (m.entries.map fun (k, v) => (k, .text v))

def OwnerReference.toJson (r : OwnerReference) : Json :=
  Json.present [
    ("apiVersion", some (.text r.apiVersion)),
    ("blockOwnerDeletion", r.blockOwnerDeletion.map .bool),
    ("controller", r.controller.map .bool),
    ("kind", some (.text r.kind)),
    ("name", some (.text r.name)),
    ("uid", some (.text r.uid))]

def ObjectMeta.toJson (m : ObjectMeta) : Json :=
  Json.presentWith m.other [
    ("annotations", m.annotations.map StringMap.toJson),
    ("finalizers", m.finalizers.map Json.texts),
    ("generateName", m.generateName.map .text),
    ("generation", m.generation.map fun n => Json.int n.toInt),
    ("labels", m.labels.map StringMap.toJson),
    ("name", m.name.map .text),
    ("namespace", m.ns.map .text),
    ("ownerReferences", m.ownerReferences.map fun rs => .list (rs.map OwnerReference.toJson)),
    ("resourceVersion", m.resourceVersion.map .text),
    ("uid", m.uid.map .text)]

/-- Reads an owner reference; texts that are absent are empty. -/
def OwnerReference.decode : Decoder OwnerReference :=
  Decoder.openRecord [
    .last "apiVersion" .string fun v r => { r with apiVersion := v.getD "" },
    .last "blockOwnerDeletion" .bool fun v r => { r with blockOwnerDeletion := v },
    .last "controller" .bool fun v r => { r with controller := v },
    .last "kind" .string fun v r => { r with kind := v.getD "" },
    .last "name" .string fun v r => { r with name := v.getD "" },
    .last "uid" .string fun v r => { r with uid := v.getD "" }]
    ⟨"", "", "", "", none, none⟩

def ObjectMeta.decode : Decoder ObjectMeta :=
  Decoder.extended [
    .last "annotations" (.map .string) fun v m => { m with annotations := v },
    .last "finalizers" (.list .string) fun v m => { m with finalizers := v },
    .last "generateName" .string fun v m => { m with generateName := v },
    .last "generation" .int64 fun v m => { m with generation := v },
    .last "labels" (.map .string) fun v m => { m with labels := v },
    .last "name" .string fun v m => { m with name := v },
    .last "namespace" .string fun v m => { m with ns := v },
    .last "ownerReferences" (.list OwnerReference.decode) fun v m =>
      { m with ownerReferences := v },
    .last "resourceVersion" .string fun v m => { m with resourceVersion := v },
    .last "uid" .string fun v m => { m with uid := v }]
    Shapes.objectMetaFields (fun f m => { m with other := f m.other }) .empty

end FaasOperator
