/-
# `FaasOperator.Kubernetes.Pod` — pods as a Deployment templates them

Containers, volumes and what connects the two.  Only the parts that a function's workload uses have
fields of their own here; whatever else an object of the API says is in the field `other`.
-/
import FaasOperator.Kubernetes.Meta
import FaasOperator.Quantity

namespace FaasOperator

/-- A number or a text, for fields that take a port name or a percentage as well. -/
inductive IntOrString where
  | int (n : Int32)
  | text (s : String)
deriving DecidableEq

structure EnvVar where
  name : String
  value : Option String
  other : Json.Members := ∅
deriving DecidableEq

/-- A port that a container listens on. -/
structure ContainerPort where
  containerPort : Int32
  protocol : Option String
  other : Json.Members := ∅
deriving DecidableEq

/-- A health check that runs a command. -/
structure Probe where
  command : Option (Option (List String))
  initialDelaySeconds : Option Int32
  timeoutSeconds : Option Int32
  periodSeconds : Option Int32
  successThreshold : Option Int32
  failureThreshold : Option Int32
  other : Json.Members := ∅
deriving DecidableEq

/-- The amounts that a container may use and those that it asks for, by resource. -/
structure ResourceRequirements where
  limits : Option (StringMap Quantity)
  requests : Option (StringMap Quantity)
  other : Json.Members := ∅
deriving DecidableEq

/-- What a container is allowed to do. -/
structure SecurityContext where
  privileged : Option Bool
  runAsUser : Option Int64
  readOnlyRootFilesystem : Option Bool
  other : Json.Members := ∅
deriving DecidableEq

def SecurityContext.empty : SecurityContext := ⟨none, none, none, ∅⟩

/-- Where a container sees a volume of its pod. -/
structure VolumeMount where
  name : String
  mountPath : String
  readOnly : Option Bool
  other : Json.Members := ∅
deriving DecidableEq

structure Container where
  name : String
  image : Option String
  imagePullPolicy : Option String
  ports : Option (List ContainerPort)
  env : Option (List EnvVar)
  resources : Option ResourceRequirements
  livenessProbe : Option Probe
  readinessProbe : Option Probe
  securityContext : Option SecurityContext
  volumeMounts : Option (List VolumeMount)
  other : Json.Members := ∅
deriving DecidableEq

def Container.empty : Container := ⟨"", none, none, none, none, none, none, none, none, none, ∅⟩

/-- A key of a Secret and the file that it appears as. -/
structure KeyToPath where
  key : String
  path : String
  other : Json.Members := ∅
deriving DecidableEq

/-- The keys of one Secret that are projected into a volume. -/
structure SecretProjection where
  name : String
  items : Option (List KeyToPath)
  other : Json.Members := ∅
deriving DecidableEq

/-- One source of a projected volume. -/
structure VolumeProjection where
  secret : Option SecretProjection
  other : Json.Members := ∅
deriving DecidableEq

/-- A volume filled from several sources. -/
structure ProjectedVolume where
  sources : Option (List VolumeProjection)
  other : Json.Members := ∅
deriving DecidableEq

/-- A volume that starts out empty. -/
structure EmptyDir where
  medium : Option String
  other : Json.Members := ∅
deriving DecidableEq

/-- A volume of a pod. -/
structure Volume where
  name : String
  emptyDir : Option EmptyDir
  projected : Option ProjectedVolume
  other : Json.Members := ∅
deriving DecidableEq

/-- What a pod consists of; pull secrets are referred to by name. -/
structure PodSpec where
  containers : List Container
  volumes : Option (List Volume)
  nodeSelector : Option (StringMap String)
  imagePullSecrets : Option (List String)
  other : Json.Members := ∅
deriving DecidableEq

def PodSpec.empty : PodSpec := ⟨[], none, none, none, ∅⟩

/-- A pod to be made, with its metadata. -/
structure PodTemplate where
  metadata : Option ObjectMeta
  spec : Option PodSpec
deriving DecidableEq

end FaasOperator
