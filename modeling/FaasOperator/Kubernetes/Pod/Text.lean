/-
# `FaasOperator.Kubernetes.Pod.Text` — the written form of pods

Fields that are absent are left out; those that a value cannot do without are always written, and
read as empty where they are missing.
-/
import FaasOperator.Kubernetes.Pod
import FaasOperator.Kubernetes.Shapes.Pod

namespace FaasOperator

open Json

def Json.int32 (n : Int32) : Json := Json.int n.toInt

def Json.listOf (f : α → Json) (xs : List α) : Json := .list (xs.map f)

/-! ## Writing -/

namespace IntOrString

def toJson : IntOrString → Json
  | .int n => Json.int32 n
  | .text s => .text s

end IntOrString

def EnvVar.toJson (e : EnvVar) : Json :=
  Json.presentWith e.other [("name", some (.text e.name)), ("value", e.value.map .text)]

def ContainerPort.toJson (p : ContainerPort) : Json :=
  Json.presentWith p.other [
    ("containerPort", some (Json.int32 p.containerPort)),
    ("protocol", p.protocol.map .text)]

def Probe.toJson (p : Probe) : Json :=
  Json.presentWith p.other [
    ("exec", p.command.map fun c => Json.present [("command", c.map Json.texts)]),
    ("failureThreshold", p.failureThreshold.map Json.int32),
    ("initialDelaySeconds", p.initialDelaySeconds.map Json.int32),
    ("periodSeconds", p.periodSeconds.map Json.int32),
    ("successThreshold", p.successThreshold.map Json.int32),
    ("timeoutSeconds", p.timeoutSeconds.map Json.int32)]

def quantitiesToJson (m : StringMap Quantity) : Json :=
  .record (m.entries.map fun (k, q) => (k, .text q.text))

def ResourceRequirements.toJson (r : ResourceRequirements) : Json :=
  Json.presentWith r.other [
    ("limits", r.limits.map quantitiesToJson),
    ("requests", r.requests.map quantitiesToJson)]

def SecurityContext.toJson (s : SecurityContext) : Json :=
  Json.presentWith s.other [
    ("privileged", s.privileged.map .bool),
    ("readOnlyRootFilesystem", s.readOnlyRootFilesystem.map .bool),
    ("runAsUser", s.runAsUser.map fun n => Json.int n.toInt)]

def VolumeMount.toJson (m : VolumeMount) : Json :=
  Json.presentWith m.other [
    ("mountPath", some (.text m.mountPath)),
    ("name", some (.text m.name)),
    ("readOnly", m.readOnly.map .bool)]

def Container.toJson (c : Container) : Json :=
  Json.presentWith c.other [
    ("env", c.env.map (Json.listOf EnvVar.toJson)),
    ("image", c.image.map .text),
    ("imagePullPolicy", c.imagePullPolicy.map .text),
    ("livenessProbe", c.livenessProbe.map Probe.toJson),
    ("name", some (.text c.name)),
    ("ports", c.ports.map (Json.listOf ContainerPort.toJson)),
    ("readinessProbe", c.readinessProbe.map Probe.toJson),
    ("resources", c.resources.map ResourceRequirements.toJson),
    ("securityContext", c.securityContext.map SecurityContext.toJson),
    ("volumeMounts", c.volumeMounts.map (Json.listOf VolumeMount.toJson))]

def KeyToPath.toJson (k : KeyToPath) : Json :=
  Json.presentWith k.other [("key", some (.text k.key)), ("path", some (.text k.path))]

def SecretProjection.toJson (s : SecretProjection) : Json :=
  Json.presentWith s.other [
    ("items", s.items.map (Json.listOf KeyToPath.toJson)),
    ("name", some (.text s.name))]

def VolumeProjection.toJson (v : VolumeProjection) : Json :=
  Json.presentWith v.other [("secret", v.secret.map SecretProjection.toJson)]

def Volume.toJson (v : Volume) : Json :=
  Json.presentWith v.other [
    ("emptyDir", v.emptyDir.map fun e =>
      Json.presentWith e.other [("medium", e.medium.map .text)]),
    ("name", some (.text v.name)),
    ("projected", v.projected.map fun p =>
      Json.presentWith p.other [("sources", p.sources.map (Json.listOf VolumeProjection.toJson))])]

def PodSpec.toJson (p : PodSpec) : Json :=
  Json.presentWith p.other [
    ("containers", some (Json.listOf Container.toJson p.containers)),
    ("imagePullSecrets", p.imagePullSecrets.map
      (Json.listOf fun name => .record [("name", .text name)])),
    ("nodeSelector", p.nodeSelector.map StringMap.toJson),
    ("volumes", p.volumes.map (Json.listOf Volume.toJson))]

def PodTemplate.toJson (t : PodTemplate) : Json :=
  Json.present [("metadata", t.metadata.map ObjectMeta.toJson), ("spec", t.spec.map PodSpec.toJson)]

/-! ## Reading -/

def IntOrString.decode : Decoder IntOrString
  | .text l => l.value.map .text
  | d => (Decoder.int32 d).map .int

def EnvVar.decode : Decoder EnvVar :=
  Decoder.extended [
    .last "name" .string fun v e => { e with name := v.getD "" },
    .last "value" .string fun v e => { e with value := v }]
    Shapes.environmentVariableFields (fun f e => { e with other := f e.other }) ⟨"", none, ∅⟩

def ContainerPort.decode : Decoder ContainerPort :=
  Decoder.extended [
    .last "containerPort" .int32 fun v p => { p with containerPort := v.getD 0 },
    .last "protocol" .string fun v p => { p with protocol := v }]
    Shapes.containerPortFields (fun f p => { p with other := f p.other }) ⟨0, none, ∅⟩

def Probe.decode : Decoder Probe :=
  Decoder.extended [
    .last "exec"
      (Decoder.openRecord [.last "command" (.list .string) fun v _ => v] none)
      fun v p => { p with command := v },
    .last "failureThreshold" .int32 fun v p => { p with failureThreshold := v },
    .last "initialDelaySeconds" .int32 fun v p => { p with initialDelaySeconds := v },
    .last "periodSeconds" .int32 fun v p => { p with periodSeconds := v },
    .last "successThreshold" .int32 fun v p => { p with successThreshold := v },
    .last "timeoutSeconds" .int32 fun v p => { p with timeoutSeconds := v }]
    Shapes.probeFields (fun f p => { p with other := f p.other })
    ⟨none, none, none, none, none, none, ∅⟩

/-- Reads the text of an amount as it is. -/
def Quantity.decode : Decoder Quantity := fun d => (Decoder.string d).map Quantity.mk

def ResourceRequirements.decode : Decoder ResourceRequirements :=
  Decoder.extended [
    .last "limits" (.map Quantity.decode) fun v r => { r with limits := v },
    .last "requests" (.map Quantity.decode) fun v r => { r with requests := v }]
    Shapes.resourceRequirementsFields (fun f r => { r with other := f r.other }) ⟨none, none, ∅⟩

def SecurityContext.decode : Decoder SecurityContext :=
  Decoder.extended [
    .last "privileged" .bool fun v s => { s with privileged := v },
    .last "readOnlyRootFilesystem" .bool fun v s => { s with readOnlyRootFilesystem := v },
    .last "runAsUser" .int64 fun v s => { s with runAsUser := v }]
    Shapes.securityContextFields (fun f s => { s with other := f s.other }) .empty

def VolumeMount.decode : Decoder VolumeMount :=
  Decoder.extended [
    .last "mountPath" .string fun v m => { m with mountPath := v.getD "" },
    .last "name" .string fun v m => { m with name := v.getD "" },
    .last "readOnly" .bool fun v m => { m with readOnly := v }]
    Shapes.volumeMountFields (fun f m => { m with other := f m.other }) ⟨"", "", none, ∅⟩

def Container.decode : Decoder Container :=
  Decoder.extended [
    .last "env" (.list EnvVar.decode) fun v c => { c with env := v },
    .last "image" .string fun v c => { c with image := v },
    .last "imagePullPolicy" .string fun v c => { c with imagePullPolicy := v },
    .last "livenessProbe" Probe.decode fun v c => { c with livenessProbe := v },
    .last "name" .string fun v c => { c with name := v.getD "" },
    .last "ports" (.list ContainerPort.decode) fun v c => { c with ports := v },
    .last "readinessProbe" Probe.decode fun v c => { c with readinessProbe := v },
    .last "resources" ResourceRequirements.decode fun v c => { c with resources := v },
    .last "securityContext" SecurityContext.decode fun v c => { c with securityContext := v },
    .last "volumeMounts" (.list VolumeMount.decode) fun v c => { c with volumeMounts := v }]
    Shapes.containerFields (fun f c => { c with other := f c.other }) .empty

def KeyToPath.decode : Decoder KeyToPath :=
  Decoder.extended [
    .last "key" .string fun v k => { k with key := v.getD "" },
    .last "path" .string fun v k => { k with path := v.getD "" }]
    Shapes.keyToPathFields (fun f k => { k with other := f k.other }) ⟨"", "", ∅⟩

def SecretProjection.decode : Decoder SecretProjection :=
  Decoder.extended [
    .last "items" (.list KeyToPath.decode) fun v s => { s with items := v },
    .last "name" .string fun v s => { s with name := v.getD "" }]
    Shapes.keysProjectionFields (fun f s => { s with other := f s.other }) ⟨"", none, ∅⟩

def VolumeProjection.decode : Decoder VolumeProjection :=
  Decoder.extended [.last "secret" SecretProjection.decode fun v o => { o with secret := v }]
    Shapes.volumeProjectionFields (fun f v => { v with other := f v.other }) ⟨none, ∅⟩

def ProjectedVolume.decode : Decoder ProjectedVolume :=
  Decoder.extended [
    .last "sources" (.list VolumeProjection.decode) fun v o => { o with sources := v }]
    Shapes.projectedVolumeFields (fun f o => { o with other := f o.other }) ⟨none, ∅⟩

def EmptyDir.decode : Decoder EmptyDir :=
  Decoder.extended [.last "medium" .string fun v o => { o with medium := v }]
    Shapes.emptyDirFields (fun f e => { e with other := f e.other }) ⟨none, ∅⟩

def Volume.decode : Decoder Volume :=
  Decoder.extended [
    .last "emptyDir" EmptyDir.decode fun v o => { o with emptyDir := v },
    .last "name" .string fun v o => { o with name := v.getD "" },
    .last "projected" ProjectedVolume.decode fun v o => { o with projected := v }]
    Shapes.volumeFields (fun f o => { o with other := f o.other }) ⟨"", none, none, ∅⟩

/-- Reads a reference that consists of a name. -/
def decodeNameReference : Decoder String :=
  Decoder.openRecord [.last "name" .string fun v _ => v.getD ""] ""

def PodSpec.decode : Decoder PodSpec :=
  Decoder.extended [
    .last "containers" (.list Container.decode) fun v p => { p with containers := v.getD [] },
    .last "imagePullSecrets" (.list decodeNameReference) fun v p =>
      { p with imagePullSecrets := v },
    .last "nodeSelector" (.map .string) fun v p => { p with nodeSelector := v },
    .last "volumes" (.list Volume.decode) fun v p => { p with volumes := v }]
    Shapes.podFields (fun f p => { p with other := f p.other }) .empty

def PodTemplate.decode : Decoder PodTemplate :=
  Decoder.openRecord [
    .last "metadata" ObjectMeta.decode fun v t => { t with metadata := v },
    .last "spec" PodSpec.decode fun v t => { t with spec := v }]
    ⟨none, none⟩

end FaasOperator
