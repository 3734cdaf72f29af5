/-
# `FaasOperator.Kubernetes.Shapes.Pod` — shapes of pods

Where pods run, who they are on the network, and what they contain, with the fields of version 1.33
of the API.
-/
import FaasOperator.Kubernetes.Shapes.Volume

namespace FaasOperator.Shapes

open Json Json.Shape

/-! ## Where a pod runs -/

def nodeSelectorTerm : Shape :=
  .record (optional (.list requirement) ["matchExpressions", "matchFields"])

def nodeSelector : Shape := .record (blank (.list nodeSelectorTerm) ["nodeSelectorTerms"])

/-- A term with its weight. -/
def preferredTerm : Shape := .record (
  blank nodeSelectorTerm ["preference"] ++
  blank .int32 ["weight"])

/-- Which nodes a pod is drawn to. -/
def nodeAffinity : Shape := .record (
  optional (.list preferredTerm) ["preferredDuringSchedulingIgnoredDuringExecution"] ++
  optional nodeSelector ["requiredDuringSchedulingIgnoredDuringExecution"])

/-- Which other pods are meant. -/
def podAffinityTerm : Shape := .record (
  optional labelSelector ["labelSelector", "namespaceSelector"] ++
  optional .texts ["matchLabelKeys", "mismatchLabelKeys", "namespaces"] ++
  blank .text ["topologyKey"])

/-- Other pods with their weight. -/
def weightedPodTerm : Shape := .record (
  blank podAffinityTerm ["podAffinityTerm"] ++
  blank .int32 ["weight"])

/-- Which pods a pod is drawn to, or kept away from. -/
def podAffinity : Shape := .record (
  optional (.list weightedPodTerm) ["preferredDuringSchedulingIgnoredDuringExecution"] ++
  optional (.list podAffinityTerm) ["requiredDuringSchedulingIgnoredDuringExecution"])

/-- What a pod is drawn to and kept away from. -/
def affinity : Shape := .record (
  optional nodeAffinity ["nodeAffinity"] ++
  optional podAffinity ["podAffinity", "podAntiAffinity"])

/-- A taint of nodes that a pod tolerates. -/
def toleration : Shape := .record (
  optional .text ["effect", "key", "operator", "value"] ++
  optional .int64 ["tolerationSeconds"])

/-- How pods are spread. -/
def spreadConstraint : Shape := .record (
  optional labelSelector ["labelSelector"] ++
  optional .texts ["matchLabelKeys"] ++
  blank .int32 ["maxSkew"] ++
  optional .int32 ["minDomains"] ++
  optional .text ["nodeAffinityPolicy", "nodeTaintsPolicy"] ++
  blank .text ["topologyKey", "whenUnsatisfiable"])

/-! ## Names and networks -/

def resolverOption : Shape := .record (optional .text ["name", "value"])

/-- How names are resolved. -/
def resolver : Shape := .record (
  optional .texts ["nameservers", "searches"] ++
  optional (.list resolverOption) ["options"])

/-- Further names of an address. -/
def hostAlias : Shape := .record (
  optional .texts ["hostnames"] ++
  blank .text ["ip"])

/-! ## Permissions and resources -/

def kernelSetting : Shape := .record (blank .text ["name", "value"])

/-- What the containers of a pod are allowed to do. -/
def podSecurityContext : Shape := .record (
  optional profile ["appArmorProfile", "seccompProfile"] ++
  optional .int64 ["fsGroup", "runAsGroup", "runAsUser"] ++
  optional .text ["fsGroupChangePolicy", "seLinuxChangePolicy", "supplementalGroupsPolicy"] ++
  optional .flag ["runAsNonRoot"] ++
  optional securityLabels ["seLinuxOptions"] ++
  optional (.list .int64) ["supplementalGroups"] ++
  optional (.list kernelSetting) ["sysctls"] ++
  optional windowsOptions ["windowsOptions"])

def podResourceClaim : Shape := .record (
  blank .text ["name"] ++
  optional .text ["resourceClaimName", "resourceClaimTemplateName"])

/-! ## Pods -/

def podFields : List (Label × Shape) :=
  blank (.list container) ["containers"] ++
  optional (.list container) ["initContainers"] ++
  optional (.list ephemeralContainer) ["ephemeralContainers"] ++
  optional (.list (.record volumeFields)) ["volumes"] ++
  optional (.list localReference) ["imagePullSecrets"] ++
  optional .textMap ["nodeSelector"] ++
  optional quantities ["overhead"] ++
  optional .text ["dnsPolicy", "hostname", "nodeName", "preemptionPolicy", "priorityClassName",
    "restartPolicy", "runtimeClassName", "schedulerName", "serviceAccount", "serviceAccountName",
    "subdomain"] ++
  optional .flag ["automountServiceAccountToken", "enableServiceLinks", "hostIPC", "hostNetwork",
    "hostPID", "hostUsers", "setHostnameAsFQDN", "shareProcessNamespace"] ++
  optional .int32 ["priority"] ++
  optional .int64 ["activeDeadlineSeconds", "terminationGracePeriodSeconds"] ++
  optional affinity ["affinity"] ++
  optional resolver ["dnsConfig"] ++
  optional (.list hostAlias) ["hostAliases"] ++
  optional (.record (blank .text ["name"])) ["os"] ++
  optional (.list (.record (blank .text ["conditionType"]))) ["readinessGates"] ++
  optional (.list podResourceClaim) ["resourceClaims"] ++
  optional resourceRequirements ["resources"] ++
  optional (.list (.record (blank .text ["name"]))) ["schedulingGates"] ++
  optional podSecurityContext ["securityContext"] ++
  optional (.list toleration) ["tolerations"] ++
  optional (.list spreadConstraint) ["topologySpreadConstraints"]

end FaasOperator.Shapes
