/-
# `FaasOperator.Kubernetes.Shapes.Workload` — shapes of Deployments, Services, Secrets and events

As far as they are more than metadata and pods, with the fields of version 1.33 of the API.
-/
import FaasOperator.Kubernetes.Shapes.Meta

namespace FaasOperator.Shapes

open Json Json.Shape

/-! ## Deployments -/

/-- The fields of a Deployment's declaration beside its pods and their number. -/
def deploymentSpecFields : List (Label × Shape) :=
  optional .int32 ["minReadySeconds", "progressDeadlineSeconds"] ++
  optional .flag ["paused"]

def deploymentCondition : Shape := .record (
  optional .time ["lastTransitionTime", "lastUpdateTime"] ++
  optional .text ["message", "reason"] ++
  blank .text ["status", "type"])

def deploymentStatusFields : List (Label × Shape) :=
  optional .int32 ["availableReplicas", "collisionCount", "readyReplicas", "replicas",
    "terminatingReplicas", "unavailableReplicas", "updatedReplicas"] ++
  optional .int64 ["observedGeneration"] ++
  optional (.list deploymentCondition) ["conditions"]

/-! ## Services -/

def servicePortFields : List (Label × Shape) :=
  optional .text ["appProtocol", "name", "protocol"] ++
  optional .int32 ["nodePort"] ++
  blank .int32 ["port"] ++
  optional .numberOrText ["targetPort"]

/-- How long a client stays with the same pod. -/
def sessionAffinity : Shape :=
  .record (optional (.record (optional .int32 ["timeoutSeconds"])) ["clientIP"])

/-- The fields of a Service's declaration. -/
def serviceSpecFields : List (Label × Shape) :=
  optional .flag ["allocateLoadBalancerNodePorts", "publishNotReadyAddresses"] ++
  optional .text ["clusterIP", "externalName", "externalTrafficPolicy", "internalTrafficPolicy",
    "ipFamilyPolicy", "loadBalancerClass", "loadBalancerIP", "sessionAffinity",
    "trafficDistribution", "type"] ++
  optional .texts ["clusterIPs", "externalIPs", "ipFamilies", "loadBalancerSourceRanges"] ++
  optional .int32 ["healthCheckNodePort"] ++
  optional (.list (.record servicePortFields)) ["ports"] ++
  optional .textMap ["selector"] ++
  optional sessionAffinity ["sessionAffinityConfig"]

/-- The state of a port of a load balancer. -/
def portStatus : Shape := .record (
  optional .text ["error"] ++
  blank .int32 ["port"] ++
  blank .text ["protocol"])

/-- A way into a load balancer. -/
def ingress : Shape := .record (
  optional .text ["hostname", "ip", "ipMode"] ++
  optional (.list portStatus) ["ports"])

def serviceStatus : Shape := .record (
  optional (.list condition) ["conditions"] ++
  optional (.record (optional (.list ingress) ["ingress"])) ["loadBalancer"])

/-! ## Secrets -/

/-- The fields of a Secret beside its bytes. -/
def secretFields : List (Label × Shape) :=
  optional .flag ["immutable"] ++
  optional .textMap ["stringData"]

/-! ## Events -/

/-- Who reported an event in former times. -/
def eventSource : Shape := .record (optional .text ["component", "host"])

/-- How often an event has happened, and when it did last. -/
def eventSeries : Shape := .record (
  blank .int32 ["count"] ++
  required .microTime ["lastObservedTime"])

def eventFields : List (Label × Shape) :=
  optional .text ["action", "note", "reason", "reportingController", "reportingInstance", "type"] ++
  optional .int32 ["deprecatedCount"] ++
  optional .time ["deprecatedFirstTimestamp", "deprecatedLastTimestamp"] ++
  optional eventSource ["deprecatedSource"] ++
  optional .microTime ["eventTime"] ++
  optional objectMeta ["metadata"] ++
  optional objectReference ["regarding", "related"] ++
  optional eventSeries ["series"]

end FaasOperator.Shapes
