/-
# `FaasOperator.Kubernetes.Secret` — Secrets

Named bytes, of a type that says what they are for.  The two types of credentials for an image
registry are told from all others.
-/
import FaasOperator.Base64
import FaasOperator.Kubernetes.Meta
import FaasOperator.Kubernetes.Shapes.Workload

namespace FaasOperator

/-- A Secret; each of its keys holds some bytes. -/
structure Secret where
  metadata : ObjectMeta
  type : Option String
  data : Option (StringMap (List UInt8))
  other : Json.Members := ∅
deriving DecidableEq

namespace Secret

/-- The types of Secrets that hold credentials for an image registry. -/
def registryTypes : List String := ["kubernetes.io/dockerconfigjson", "kubernetes.io/dockercfg"]

/-- The Secret holds credentials for an image registry. -/
def isRegistryCredential (s : Secret) : Bool :=
  match s.type with
  | some t => registryTypes.contains t
  | none => false

/-- The keys under which the Secret holds something, in order. -/
def dataKeys (s : Secret) : List String :=
  match s.data with
  | some m => m.keys
  | none => []

/-! ## Written form -/

open Json

def apiVersion : String := "v1"

def kind : String := "Secret"

/-- The written form of a Secret, with its bytes in base64. -/
def toJson (s : Secret) : Json :=
  Json.presentWith s.other [
    ("apiVersion", some (.text apiVersion)),
    ("data", s.data.map fun m =>
      .record (m.entries.map fun (k, bytes) => (k, .text (String.ofList (Base64.encode bytes))))),
    ("kind", some (.text kind)),
    ("metadata", some s.metadata.toJson),
    ("type", s.type.map .text)]

/-- Reads bytes in base64; null stands for no bytes. -/
def decodeBytes : Decoder (List UInt8)
  | .null => .ok []
  | doc =>
      match Decoder.string doc with
      | .error p => .error p
      | .ok s =>
          match Base64.decode? s.toList with
          | some bytes => .ok bytes
          | none => .error .mismatch

/-- Reads a Secret; if its kind is said, it must be said right. -/
def decode : Decoder Secret :=
  Decoder.extended [
    .fixed "apiVersion" apiVersion,
    .last "data" (.map decodeBytes) fun v s => { s with data := v },
    .fixed "kind" kind,
    .last "metadata" ObjectMeta.decode fun v s => { s with metadata := v.getD .empty },
    .last "type" .string fun v s => { s with type := v }]
    Shapes.secretFields (fun f s => { s with other := f s.other }) ⟨.empty, none, none, ∅⟩

end Secret

end FaasOperator
