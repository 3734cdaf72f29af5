/-
# `FaasOperator.Proofs.Workload.Mounts` — every volume of a rendered pod is mounted once

What is rendered for a function, whatever it declares and whichever of its Secrets are there
(`FunctionObject.wellMounted_deployment`, `PodSpec.WellMounted`):

* the pod has one container, which mounts each volume of the pod once, each at a place of its own;
* volumes go by different names, whatever the function is called;
* there is a temporary volume exactly if the root filesystem is read-only, and a volume of Secrets
  exactly if one of the declared Secrets is there and is no registry credential;
* a list that would be empty is absent.
-/
import FaasOperator.Proofs.Workload.Volumes

namespace FaasOperator

def Volume.Projects (v : Volume) : Prop :=
  ∃ projected sources, v.projected = some projected ∧ projected.sources = some sources ∧ sources ≠ []

/-- One of the declared Secrets is there and is no registry credential. -/
def FunctionSpec.ProjectsSome (s : FunctionSpec) (secrets : Secrets) : Prop :=
  ∃ name ∈ s.secrets.getD [], ∃ secret, secrets.get? name = some secret ∧
    secret.isRegistryCredential = false

/-- The pod has one container, which mounts each volume once, each at a place of its own; there are
the volumes that the declaration asks for and no others; and no list is empty. -/
structure PodSpec.WellMounted (p : PodSpec) (s : FunctionSpec) (secrets : Secrets) (c : Container) :
    Prop where
  containers : p.containers = [c]
  names_nodup : ((p.volumes.getD []).map (·.name)).Nodup
  names_mounts : (c.volumeMounts.getD []).map (·.name) = (p.volumes.getD []).map (·.name)
  paths_nodup : ((c.volumeMounts.getD []).map (·.mountPath)).Nodup
  temp_iff : tempVolume ∈ p.volumes.getD [] ↔ s.readOnlyRootFilesystem = true
  secrets_iff : (∃ v ∈ p.volumes.getD [], v.name = s.secretsVolumeName ∧ v.Projects) ↔
    s.ProjectsSome secrets
  volumes : ∀ v ∈ p.volumes.getD [], v = tempVolume ∨ v.name = s.secretsVolumeName ∧ v.Projects
  mounts : ∀ m ∈ c.volumeMounts.getD [], m = tempMount ∨
    m = ⟨s.secretsVolumeName, secretsMountPath, some true, ∅⟩
  absent : p.volumes ≠ some [] ∧ c.volumeMounts ≠ some [] ∧ p.imagePullSecrets ≠ some []

namespace FunctionSpec

variable {s : FunctionSpec} {secrets : Secrets}

theorem mem_declaredSecrets_iff {name : String} {secret : Secret} :
    (name, secret) ∈ s.declaredSecrets secrets ↔
      name ∈ s.secrets.getD [] ∧ secrets.get? name = some secret := by
  simp only [declaredSecrets, secretNames, List.mem_filterMap, List.mem_eraseDups,
    Option.map_eq_some_iff, Prod.mk.injEq]
  constructor
  · rintro ⟨n, hn, x, hx, rfl, rfl⟩
    exact ⟨hn, hx⟩
  · rintro ⟨hn, hx⟩
    exact ⟨name, hn, secret, hx, rfl, rfl⟩

theorem sources_ne_nil_iff : s.sources secrets ≠ [] ↔ s.ProjectsSome secrets := by
  constructor
  · intro h
    obtain ⟨source, hsource⟩ := List.exists_mem_of_ne_nil _ h
    obtain ⟨⟨name, secret⟩, hmem, -⟩ := List.mem_map.mp hsource
    obtain ⟨hdeclared, hkind⟩ := List.mem_filter.mp hmem
    obtain ⟨hname, hsecret⟩ := mem_declaredSecrets_iff.mp hdeclared
    exact ⟨name, hname, secret, hsecret, by simpa using hkind⟩
  · rintro ⟨name, hname, secret, hsecret, hkind⟩
    have hdeclared := mem_declaredSecrets_iff.mpr ⟨hname, hsecret⟩
    have hmem : secret.projection name ∈ s.sources secrets :=
      List.mem_map_of_mem (List.mem_filter.mpr ⟨hdeclared, by simp [hkind]⟩)
    exact List.ne_nil_of_mem hmem

theorem mem_podVolumes_iff {v : Volume} :
    v ∈ s.podVolumes secrets ↔ s.readOnlyRootFilesystem = true ∧ v = tempVolume ∨
      s.ProjectsSome secrets ∧ v = s.secretsVolume secrets := by
  simp [podVolumes, tempFitting, secretsFitting, Fitting.single, ← sources_ne_nil_iff]

theorem mem_podMounts_iff {m : VolumeMount} :
    m ∈ s.podMounts secrets ↔ s.readOnlyRootFilesystem = true ∧ m = tempMount ∨
      s.ProjectsSome secrets ∧ m = ⟨s.secretsVolumeName, secretsMountPath, some true, ∅⟩ := by
  simp only [podMounts, tempFitting, secretsFitting, Fitting.single, ← sources_ne_nil_iff,
    List.mem_append, List.mem_ite_nil_right, List.mem_singleton, Bool.not_eq_true',
    List.isEmpty_eq_false_iff]
  rfl

theorem nodup_podVolumes (s : FunctionSpec) (secrets : Secrets) :
    ((s.podVolumes secrets).map (·.name)).Nodup := by
  have hne : tempVolume.name ≠ (s.secretsVolume secrets).name := s.secretsVolumeName_ne.symm
  unfold podVolumes tempFitting secretsFitting Fitting.single
  cases s.readOnlyRootFilesystem <;> cases (s.sources secrets).isEmpty <;> simp [hne]

theorem map_name_podMounts (s : FunctionSpec) (secrets : Secrets) :
    (s.podMounts secrets).map (·.name) = (s.podVolumes secrets).map (·.name) := by
  unfold podMounts podVolumes tempFitting secretsFitting Fitting.single
  cases s.readOnlyRootFilesystem <;> cases (s.sources secrets).isEmpty <;> rfl

theorem nodup_podMounts (s : FunctionSpec) (secrets : Secrets) :
    ((s.podMounts secrets).map (·.mountPath)).Nodup := by
  unfold podMounts tempFitting secretsFitting Fitting.single
  cases s.readOnlyRootFilesystem <;> cases (s.sources secrets).isEmpty <;> simp [secretsMountPath]

theorem projects_secretsVolume (h : s.ProjectsSome secrets) : (s.secretsVolume secrets).Projects :=
  ⟨_, s.sources secrets, rfl, rfl, sources_ne_nil_iff.mpr h⟩

/-- The other volume goes by another name, so it is not taken for this one. -/
theorem tempVolume_mem_podVolumes_iff :
    tempVolume ∈ s.podVolumes secrets ↔ s.readOnlyRootFilesystem = true := by
  rw [mem_podVolumes_iff]
  constructor
  · rintro (⟨hflag, -⟩ | ⟨-, heq⟩)
    · exact hflag
    · exact absurd (congrArg Volume.name heq).symm s.secretsVolumeName_ne
  · intro hflag
    exact .inl ⟨hflag, rfl⟩

theorem exists_secretsVolume_iff :
    (∃ v ∈ s.podVolumes secrets, v.name = s.secretsVolumeName ∧ v.Projects) ↔
      s.ProjectsSome secrets := by
  constructor
  · rintro ⟨v, hv, hname, -⟩
    rcases mem_podVolumes_iff.mp hv with ⟨-, rfl⟩ | ⟨hsome, -⟩
    · exact absurd hname.symm s.secretsVolumeName_ne
    · exact hsome
  · intro hsome
    exact ⟨_, mem_podVolumes_iff.mpr (.inr ⟨hsome, rfl⟩), rfl, projects_secretsVolume hsome⟩

end FunctionSpec

/-- What is rendered for a function, whatever it declares and whichever of its Secrets are there, has
its volumes and mounts in order. -/
theorem FunctionObject.wellMounted_deployment (f : FunctionObject) (owner : OwnerReference)
    (secrets : Secrets) (policy : PullPolicy) :
    ∃ p c, (f.deployment owner secrets policy).pod? = some p ∧ p.WellMounted f.spec secrets c :=
  ⟨_, _, f.pod?_deployment owner secrets policy, {
    containers := rfl
    names_nodup := by
      rw [getD_nonEmpty?]
      exact f.spec.nodup_podVolumes secrets
    names_mounts := by
      rw [getD_nonEmpty?, getD_nonEmpty?]
      exact f.spec.map_name_podMounts secrets
    paths_nodup := by
      rw [getD_nonEmpty?]
      exact f.spec.nodup_podMounts secrets
    temp_iff := by
      rw [getD_nonEmpty?]
      exact FunctionSpec.tempVolume_mem_podVolumes_iff
    secrets_iff := by
      rw [getD_nonEmpty?]
      exact FunctionSpec.exists_secretsVolume_iff
    volumes := by
      rw [getD_nonEmpty?]
      intro v hv
      rcases FunctionSpec.mem_podVolumes_iff.mp hv with ⟨-, rfl⟩ | ⟨hsome, rfl⟩
      · exact .inl rfl
      · exact .inr ⟨rfl, FunctionSpec.projects_secretsVolume hsome⟩
    mounts := by
      rw [getD_nonEmpty?]
      intro m hm
      rcases FunctionSpec.mem_podMounts_iff.mp hm with ⟨-, rfl⟩ | ⟨-, rfl⟩
      · exact .inl rfl
      · exact .inr rfl
    absent := ⟨nonEmpty?_ne_some_nil _, nonEmpty?_ne_some_nil _, nonEmpty?_ne_some_nil _⟩ }⟩

end FaasOperator
