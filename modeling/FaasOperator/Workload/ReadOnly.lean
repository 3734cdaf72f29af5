/-
# `FaasOperator.Workload.ReadOnly` — a read-only root filesystem, and a writable `/tmp` beside it

Whatever was there under the name of the temporary volume is replaced, so this may be done to a
Deployment any number of times.  Only the first container is concerned.
-/
import FaasOperator.Workload.Volumes

namespace FaasOperator

/-- The name of the volume behind `/tmp`. -/
def tempVolumeName : String := "temp"

def tempVolume : Volume := ⟨tempVolumeName, some ⟨none, ∅⟩, none, ∅⟩

def tempMount : VolumeMount := ⟨tempVolumeName, "/tmp", some false, ∅⟩

def SecurityContext.setReadOnly (readOnly : Bool) (s : SecurityContext) : SecurityContext :=
  { s with readOnlyRootFilesystem := some readOnly }

def Container.setReadOnly (readOnly : Bool) (c : Container) : Container :=
  { c with securityContext := some ((c.securityContext.getD .empty).setReadOnly readOnly) }

/-- Sets the flag of a pod's first container and gives it a writable `/tmp` or takes it away. -/
def PodSpec.configureReadOnly (readOnly : Bool) (p : PodSpec) : PodSpec :=
  p.withFirstContainer fun p c =>
    let volumes := removeVolume tempVolumeName p.volumes
    let mounts := removeMount tempVolumeName c.volumeMounts
    ({ p with volumes := if readOnly then append tempVolume volumes else volumes },
      { c.setReadOnly readOnly with
          volumeMounts := if readOnly then append tempMount mounts else mounts })

def Deployment.configureReadOnly (readOnly : Bool) (d : Deployment) : Deployment :=
  d.mapPod (PodSpec.configureReadOnly readOnly)

end FaasOperator
