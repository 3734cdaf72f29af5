/-
# `FaasOperator.Workload.Secrets` — the Secrets of a function's workload

Credentials for an image registry become pull secrets; all other Secrets are projected into one
volume, each key as a file of its name.  Secrets are taken in the order of their first declaration,
each once, and one that is not there is passed over.
-/
import FaasOperator.Function.Object
import FaasOperator.Kubernetes.Secret
import FaasOperator.Workload.Volumes

namespace FaasOperator

abbrev Secrets := StringMap Secret

/-- Where the container sees the projected Secrets. -/
def secretsMountPath : String := "/var/openfaas/secrets"

namespace FunctionSpec

def secretsVolumeName (s : FunctionSpec) : String := s.name ++ "-projected-secrets"

/-- The names of the declared Secrets, each once, in the order of their first occurrence. -/
def secretNames (s : FunctionSpec) : List String := (s.secrets.getD []).eraseDups

/-- The declared Secrets that are there, in the order of their declaration. -/
def declaredSecrets (s : FunctionSpec) (secrets : Secrets) : List (String × Secret) :=
  s.secretNames.filterMap fun name => (secrets.get? name).map (name, ·)

end FunctionSpec

/-- Every key of a Secret as a file of the same name. -/
def Secret.projection (name : String) (s : Secret) : VolumeProjection :=
  ⟨some ⟨name, some (s.dataKeys.map fun key => ⟨key, key, ∅⟩), ∅⟩, ∅⟩

/-- The names of the registry credentials among the Secrets. -/
def pullSecrets (declared : List (String × Secret)) : List String :=
  (declared.filter fun e => e.2.isRegistryCredential).map (·.1)

/-- The sources of the projected volume: the Secrets that are no registry credentials. -/
def projectionSources (declared : List (String × Secret)) : List VolumeProjection :=
  (declared.filter fun e => !e.2.isRegistryCredential).map fun e => e.2.projection e.1

/-- The list, or nothing if it is empty. -/
def nonEmpty? (xs : List α) : Option (List α) := if xs.isEmpty then none else some xs

/-- Puts the Secrets into a pod in place of those that were there. -/
def PodSpec.updateSecrets (s : FunctionSpec) (secrets : Secrets) (p : PodSpec) : PodSpec :=
  p.withFirstContainer fun p c =>
    let declared := s.declaredSecrets secrets
    let sources := projectionSources declared
    let volumes := removeVolume s.secretsVolumeName p.volumes
    let mounts := removeMount s.secretsVolumeName c.volumeMounts
    let volume : Volume := ⟨s.secretsVolumeName, none, some ⟨some sources, ∅⟩, ∅⟩
    let mount : VolumeMount := ⟨s.secretsVolumeName, secretsMountPath, some true, ∅⟩
    ({ p with
        imagePullSecrets := nonEmpty? (pullSecrets declared)
        volumes := if sources.isEmpty then volumes else append volume volumes },
      { c with volumeMounts := if sources.isEmpty then mounts else append mount mounts })

/-- Puts the Secrets into a Deployment in place of those that were there. -/
def Deployment.updateSecrets (s : FunctionSpec) (secrets : Secrets) (d : Deployment) : Deployment :=
  d.mapPod (PodSpec.updateSecrets s secrets)

end FaasOperator
