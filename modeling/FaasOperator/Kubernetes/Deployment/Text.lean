/-
# `FaasOperator.Kubernetes.Deployment.Text` — the written form of Deployments

Fields that the operator makes no use of are read, kept and written back with the object.
-/
import FaasOperator.Kubernetes.Deployment
import FaasOperator.Kubernetes.Pod.Text
import FaasOperator.Kubernetes.Shapes.Workload

namespace FaasOperator

open Json

/-! ## Writing -/

def RollingUpdate.toJson (r : RollingUpdate) : Json :=
  Json.present [
    ("maxSurge", r.maxSurge.map IntOrString.toJson),
    ("maxUnavailable", r.maxUnavailable.map IntOrString.toJson)]

def DeploymentStrategy.toJson (s : DeploymentStrategy) : Json :=
  Json.present [
    ("rollingUpdate", s.rollingUpdate.map RollingUpdate.toJson),
    ("type", s.type.map .text)]

def LabelSelector.toJson (s : LabelSelector) : Json :=
  Json.presentWith s.other [("matchLabels", s.matchLabels.map StringMap.toJson)]

/-- The written form of what a Deployment runs. -/
def DeploymentSpec.toJson (s : DeploymentSpec) : Json :=
  Json.presentWith s.other [
    ("replicas", s.replicas.map Json.int32),
    ("revisionHistoryLimit", s.revisionHistoryLimit.map Json.int32),
    ("selector", some s.selector.toJson),
    ("strategy", s.strategy.map DeploymentStrategy.toJson),
    ("template", some s.template.toJson)]

def DeploymentStatus.toJson (s : DeploymentStatus) : Json :=
  Json.presentWith s.other [("availableReplicas", s.availableReplicas.map Json.int32)]

namespace Deployment

def apiVersion : String := "apps/v1"

def kind : String := "Deployment"

def toJson (d : Deployment) : Json :=
  Json.present [
    ("apiVersion", some (.text apiVersion)),
    ("kind", some (.text kind)),
    ("metadata", some d.metadata.toJson),
    ("spec", d.spec.map DeploymentSpec.toJson),
    ("status", d.status.map DeploymentStatus.toJson)]

end Deployment

/-! ## Reading -/

def RollingUpdate.decode : Decoder RollingUpdate :=
  Decoder.openRecord [
    .last "maxSurge" IntOrString.decode fun v r => { r with maxSurge := v },
    .last "maxUnavailable" IntOrString.decode fun v r => { r with maxUnavailable := v }]
    ⟨none, none⟩

def DeploymentStrategy.decode : Decoder DeploymentStrategy :=
  Decoder.openRecord [
    .last "rollingUpdate" RollingUpdate.decode fun v s => { s with rollingUpdate := v },
    .last "type" .string fun v s => { s with type := v }]
    ⟨none, none⟩

def LabelSelector.decode : Decoder LabelSelector :=
  Decoder.extended [.last "matchLabels" (.map .string) fun v s => { s with matchLabels := v }]
    Shapes.labelSelectorFields (fun f s => { s with other := f s.other }) ⟨none, ∅⟩

def DeploymentSpec.decode : Decoder DeploymentSpec :=
  Decoder.extended [
    .last "replicas" .int32 fun v s => { s with replicas := v },
    .last "revisionHistoryLimit" .int32 fun v s => { s with revisionHistoryLimit := v },
    .last "selector" LabelSelector.decode fun v s => { s with selector := v.getD ⟨none, ∅⟩ },
    .last "strategy" DeploymentStrategy.decode fun v s => { s with strategy := v },
    .last "template" PodTemplate.decode fun v s => { s with template := v.getD ⟨none, none⟩ }]
    Shapes.deploymentSpecFields (fun f s => { s with other := f s.other }) .empty

def DeploymentStatus.decode : Decoder DeploymentStatus :=
  Decoder.extended [.last "availableReplicas" .int32 fun v s => { s with availableReplicas := v }]
    Shapes.deploymentStatusFields (fun f s => { s with other := f s.other }) ⟨none, ∅⟩

/-- Reads a Deployment; if its kind is said, it must be said right. -/
def Deployment.decode : Decoder Deployment :=
  Decoder.openRecord [
    .fixed "apiVersion" apiVersion,
    .fixed "kind" kind,
    .last "metadata" ObjectMeta.decode fun v d => { d with metadata := v.getD .empty },
    .last "spec" DeploymentSpec.decode fun v d => { d with spec := v },
    .last "status" DeploymentStatus.decode fun v d => { d with status := v }]
    .empty

end FaasOperator
