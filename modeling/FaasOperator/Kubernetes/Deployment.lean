/-
# `FaasOperator.Kubernetes.Deployment` — Deployments

A template of pods, how many of them to run and how to replace them.  Everything that a rendered
Deployment says of its pods is reached through `pod?` and changed through `mapPod`.
-/
import FaasOperator.Kubernetes.Pod

namespace FaasOperator

/-- How far a rolling update may leave the wanted number of pods. -/
structure RollingUpdate where
  maxSurge : Option IntOrString
  maxUnavailable : Option IntOrString
deriving DecidableEq

/-- How old pods are replaced by new ones. -/
structure DeploymentStrategy where
  type : Option String
  rollingUpdate : Option RollingUpdate
deriving DecidableEq

/-- The pods that belong to the Deployment. -/
structure LabelSelector where
  matchLabels : Option (StringMap String)
  other : Json.Members := ∅
deriving DecidableEq

/-- What a Deployment is to run. -/
structure DeploymentSpec where
  replicas : Option Int32
  strategy : Option DeploymentStrategy
  selector : LabelSelector
  revisionHistoryLimit : Option Int32
  template : PodTemplate
  other : Json.Members := ∅
deriving DecidableEq

def DeploymentSpec.empty : DeploymentSpec := ⟨none, none, ⟨none, ∅⟩, none, ⟨none, none⟩, ∅⟩

/-- What is known of a running Deployment. -/
structure DeploymentStatus where
  availableReplicas : Option Int32
  other : Json.Members := ∅
deriving DecidableEq

structure Deployment where
  metadata : ObjectMeta
  spec : Option DeploymentSpec
  status : Option DeploymentStatus
deriving DecidableEq

namespace Deployment

def empty : Deployment := ⟨.empty, none, none⟩

/-- The pod of the template, if there is one. -/
def pod? (d : Deployment) : Option PodSpec := d.spec.bind (·.template.spec)

/-- Changes the pod of the template, if there is one. -/
def mapPod (f : PodSpec → PodSpec) (d : Deployment) : Deployment :=
  { d with spec := d.spec.map fun s =>
      { s with template := { s.template with spec := s.template.spec.map f } } }

/-- How many replicas are reported as available; none are if nothing is reported. -/
def availableReplicas (d : Deployment) : Int32 :=
  (d.status.bind (·.availableReplicas)).getD 0

end Deployment

end FaasOperator
