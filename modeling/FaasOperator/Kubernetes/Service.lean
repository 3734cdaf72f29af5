/-
# `FaasOperator.Kubernetes.Service` — Services

One address in front of the pods that a selector picks.
-/
import FaasOperator.Kubernetes.Pod.Text
import FaasOperator.Kubernetes.Shapes.Workload

namespace FaasOperator

/-- A port of a Service and the port of the pods that it leads to. -/
structure ServicePort where
  name : Option String
  protocol : Option String
  port : Int32
  targetPort : Option IntOrString
  other : Json.Members := ∅
deriving DecidableEq

structure ServiceSpec where
  type : Option String
  selector : Option (StringMap String)
  ports : Option (List ServicePort)
  other : Json.Members := ∅
deriving DecidableEq

structure Service where
  metadata : ObjectMeta
  spec : Option ServiceSpec
  other : Json.Members := ∅
deriving DecidableEq

/-! ## Written form -/

open Json

def ServicePort.toJson (p : ServicePort) : Json :=
  Json.presentWith p.other [
    ("name", p.name.map .text),
    ("port", some (Json.int32 p.port)),
    ("protocol", p.protocol.map .text),
    ("targetPort", p.targetPort.map IntOrString.toJson)]

def ServiceSpec.toJson (s : ServiceSpec) : Json :=
  Json.presentWith s.other [
    ("ports", s.ports.map (Json.listOf ServicePort.toJson)),
    ("selector", s.selector.map StringMap.toJson),
    ("type", s.type.map .text)]

def ServicePort.decode : Decoder ServicePort :=
  Decoder.extended [
    .last "name" .string fun v p => { p with name := v },
    .last "port" .int32 fun v p => { p with port := v.getD 0 },
    .last "protocol" .string fun v p => { p with protocol := v },
    .last "targetPort" IntOrString.decode fun v p => { p with targetPort := v }]
    Shapes.servicePortFields (fun f p => { p with other := f p.other }) ⟨none, none, 0, none, ∅⟩

def ServiceSpec.decode : Decoder ServiceSpec :=
  Decoder.extended [
    .last "ports" (.list ServicePort.decode) fun v s => { s with ports := v },
    .last "selector" (.map .string) fun v s => { s with selector := v },
    .last "type" .string fun v s => { s with type := v }]
    Shapes.serviceSpecFields (fun f s => { s with other := f s.other }) ⟨none, none, none, ∅⟩

namespace Service

def apiVersion : String := "v1"

def kind : String := "Service"

def toJson (s : Service) : Json :=
  Json.presentWith s.other [
    ("apiVersion", some (.text apiVersion)),
    ("kind", some (.text kind)),
    ("metadata", some s.metadata.toJson),
    ("spec", s.spec.map ServiceSpec.toJson)]

/-- Reads a Service; if its kind is said, it must be said right. -/
def decode : Decoder Service :=
  Decoder.extended [
    .fixed "apiVersion" apiVersion,
    .fixed "kind" kind,
    .last "metadata" ObjectMeta.decode fun v s => { s with metadata := v.getD .empty },
    .last "spec" ServiceSpec.decode fun v s => { s with spec := v }]
    (Json.Shape.optional Shapes.serviceStatus ["status"]) (fun f s => { s with other := f s.other })
    ⟨.empty, none, ∅⟩

end Service

end FaasOperator
