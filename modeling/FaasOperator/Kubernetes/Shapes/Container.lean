/-
# `FaasOperator.Kubernetes.Shapes.Container` — shapes of containers and of all that belongs to one

The fields are those of version 1.33 of the API.  A name that ends in `Fields` is the list of the
fields of a record, where some of them are read apart and the rest is kept.
-/
import FaasOperator.Kubernetes.Shapes.Meta

namespace FaasOperator.Shapes

open Json Json.Shape

/-! ## Environment -/

/-- A field of the pod itself. -/
def fieldSelector : Shape := .record (
  optional .text ["apiVersion"] ++
  blank .text ["fieldPath"])

/-- A resource of a container. -/
def resourceSelector : Shape := .record (
  optional .text ["containerName", "divisor"] ++
  blank .text ["resource"])

/-- A key of a named object. -/
def keySelector : Shape := .record (
  blank .text ["key", "name"] ++
  optional .flag ["optional"])

/-- A named object, all of its keys. -/
def wholeSource : Shape := .record (
  blank .text ["name"] ++
  optional .flag ["optional"])

/-- Where the value of a variable comes from. -/
def variableSource : Shape := .record (
  optional keySelector ["configMapKeyRef", "secretKeyRef"] ++
  optional fieldSelector ["fieldRef"] ++
  optional resourceSelector ["resourceFieldRef"])

def environmentVariableFields : List (Label × Shape) :=
  blank .text ["name"] ++
  optional .text ["value"] ++
  optional variableSource ["valueFrom"]

/-- Many variables at once. -/
def variablesSource : Shape := .record (
  optional wholeSource ["configMapRef", "secretRef"] ++
  optional .text ["prefix"])

/-! ## Ports and probes -/

def containerPortFields : List (Label × Shape) :=
  blank .int32 ["containerPort"] ++
  optional .int32 ["hostPort"] ++
  optional .text ["hostIP", "name", "protocol"]

def command : Shape := .record (optional .texts ["command"])

def header : Shape := .record (blank .text ["name", "value"])

def httpRequest : Shape := .record (
  optional .text ["host", "path", "scheme"] ++
  optional (.list header) ["httpHeaders"] ++
  blank .numberOrText ["port"])

/-- A connection to open. -/
def connection : Shape := .record (
  optional .text ["host"] ++
  blank .numberOrText ["port"])

/-- A call of a health service. -/
def healthCall : Shape := .record (
  blank .int32 ["port"] ++
  optional .text ["service"])

/-- A time to wait. -/
def wait : Shape := .record (blank .int64 ["seconds"])

def probeFields : List (Label × Shape) :=
  optional command ["exec"] ++
  optional healthCall ["grpc"] ++
  optional httpRequest ["httpGet"] ++
  optional connection ["tcpSocket"] ++
  optional .int32 ["failureThreshold", "initialDelaySeconds", "periodSeconds", "successThreshold",
    "timeoutSeconds"] ++
  optional .int64 ["terminationGracePeriodSeconds"]

def probe : Shape := .record probeFields

/-- What to do at a point of a container's life. -/
def handler : Shape := .record (
  optional command ["exec"] ++
  optional httpRequest ["httpGet"] ++
  optional wait ["sleep"] ++
  optional connection ["tcpSocket"])

/-- What to do when a container starts and when it stops. -/
def lifecycle : Shape := .record (
  optional handler ["postStart", "preStop"] ++
  optional .text ["stopSignal"])

/-! ## Resources and permissions -/

/-- A device that was claimed for the pod. -/
def resourceClaim : Shape := .record (
  blank .text ["name"] ++
  optional .text ["request"])

def resourceRequirementsFields : List (Label × Shape) :=
  optional (.list resourceClaim) ["claims"] ++
  optional quantities ["limits", "requests"]

def resourceRequirements : Shape := .record resourceRequirementsFields

/-- What happens when a resource is resized. -/
def resizePolicy : Shape := .record (blank .text ["resourceName", "restartPolicy"])

/-- A profile of permissions. -/
def profile : Shape := .record (
  optional .text ["localhostProfile"] ++
  blank .text ["type"])

def capabilities : Shape := .record (optional .texts ["add", "drop"])

/-- Labels of a security module. -/
def securityLabels : Shape := .record (optional .text ["level", "role", "type", "user"])

/-- Permissions where containers run on Windows. -/
def windowsOptions : Shape := .record (
  optional .text ["gmsaCredentialSpec", "gmsaCredentialSpecName", "runAsUserName"] ++
  optional .flag ["hostProcess"])

def securityContextFields : List (Label × Shape) :=
  optional .flag ["allowPrivilegeEscalation", "privileged", "readOnlyRootFilesystem",
    "runAsNonRoot"] ++
  optional .int64 ["runAsGroup", "runAsUser"] ++
  optional .text ["procMount"] ++
  optional profile ["appArmorProfile", "seccompProfile"] ++
  optional capabilities ["capabilities"] ++
  optional securityLabels ["seLinuxOptions"] ++
  optional windowsOptions ["windowsOptions"]

/-! ## Volumes -/

def volumeMountFields : List (Label × Shape) :=
  blank .text ["mountPath", "name"] ++
  optional .text ["mountPropagation", "recursiveReadOnly", "subPath", "subPathExpr"] ++
  optional .flag ["readOnly"]

/-- A raw device. -/
def volumeDevice : Shape := .record (blank .text ["devicePath", "name"])

/-! ## Containers -/

def containerFields : List (Label × Shape) :=
  blank .text ["name"] ++
  optional .text ["image", "imagePullPolicy", "restartPolicy", "terminationMessagePath",
    "terminationMessagePolicy", "workingDir"] ++
  optional .texts ["args", "command"] ++
  optional .flag ["stdin", "stdinOnce", "tty"] ++
  optional (.list (.record environmentVariableFields)) ["env"] ++
  optional (.list variablesSource) ["envFrom"] ++
  optional lifecycle ["lifecycle"] ++
  optional probe ["livenessProbe", "readinessProbe", "startupProbe"] ++
  optional (.list (.record containerPortFields)) ["ports"] ++
  optional (.list resizePolicy) ["resizePolicy"] ++
  optional resourceRequirements ["resources"] ++
  optional (.record securityContextFields) ["securityContext"] ++
  optional (.list volumeDevice) ["volumeDevices"] ++
  optional (.list (.record volumeMountFields)) ["volumeMounts"]

def container : Shape := .record containerFields

/-- A container that is added to a running pod. -/
def ephemeralContainer : Shape :=
  .record (optional .text ["targetContainerName"] ++ containerFields)

end FaasOperator.Shapes
