/-
# `FaasOperator.Proofs.Workload.Volumes` — the two passes over the volumes of a pod

Both put elements of one name in place of those that were there under it, in a list that is absent
if nothing is in it.  That is one function (`refit`), and each pass is told by an equation
(`PodSpec.configureReadOnly_cons`, `PodSpec.updateSecrets_cons`), from which the volumes and mounts
of a rendered pod are read off (`FunctionObject.pod?_deployment`).
-/
import FaasOperator.Workload.Deployment

namespace FaasOperator

/-! ## Lists that are absent if they are empty -/

section Refit

variable {α : Type}

@[simp] theorem getD_nonEmpty? (xs : List α) : (nonEmpty? xs).getD [] = xs := by
  cases xs with
  | nil => rfl
  | cons x xs => rfl

theorem nonEmpty?_ne_some_nil (xs : List α) : nonEmpty? xs ≠ some [] := by
  intro h
  cases xs with
  | nil => cases h
  | cons x xs => cases h

theorem keepOnly_eq (p : α → Bool) (xs : Option (List α)) :
    keepOnly p xs = nonEmpty? ((xs.getD []).filter p) := by
  cases xs with
  | none => rfl
  | some xs => rfl

theorem append_eq (x : α) (xs : Option (List α)) : append x xs = nonEmpty? (xs.getD [] ++ [x]) := by
  unfold append nonEmpty?
  rw [if_neg (by simp)]

/-- The elements of other names, and after them the new ones. -/
def refit (nameOf : α → String) (name : String) (new : List α) (xs : Option (List α)) :
    Option (List α) :=
  nonEmpty? ((xs.getD []).filter (fun x => nameOf x != name) ++ new)

variable {nameOf : α → String} {name : String} {new : List α} {xs : Option (List α)}

theorem getD_refit :
    (refit nameOf name new xs).getD [] = (xs.getD []).filter (fun x => nameOf x != name) ++ new :=
  getD_nonEmpty? _

theorem refit_nil : refit nameOf name [] xs = keepOnly (fun x => nameOf x != name) xs := by
  rw [refit, List.append_nil, keepOnly_eq]

theorem refit_singleton (x : α) :
    refit nameOf name [x] xs = append x (keepOnly (fun x => nameOf x != name) xs) := by
  rw [append_eq, keepOnly_eq, getD_nonEmpty?]
  rfl

theorem filter_named (h : ∀ x ∈ new, nameOf x = name) :
    new.filter (fun x => nameOf x == name) = new := by
  rw [List.filter_eq_self]
  intro x hx
  simpa using h x hx

theorem filter_unnamed (h : ∀ x ∈ new, nameOf x = name) :
    new.filter (fun x => nameOf x != name) = [] := by
  rw [List.filter_eq_nil_iff]
  intro x hx
  simpa using h x hx

theorem filter_unnamed_of_ne {name' : String} (h : ∀ x ∈ new, nameOf x = name)
    (hne : name ≠ name') : new.filter (fun x => nameOf x != name') = new := by
  rw [List.filter_eq_self]
  intro x hx
  simpa [h x hx] using hne

theorem refit_refit (h : ∀ x ∈ new, nameOf x = name) (newer : List α) :
    refit nameOf name newer (refit nameOf name new xs) = refit nameOf name newer xs := by
  rw [refit, getD_refit, List.filter_append, filter_unnamed h, List.append_nil,
    List.filter_filter, refit]
  simp only [Bool.and_self]

/-- Where there was nothing, what is fitted under two names comes one after the other. -/
theorem refit_of_ne {name' : String} {new' : List α} (h : ∀ x ∈ new, nameOf x = name)
    (hne : name ≠ name') :
    refit nameOf name' new' (refit nameOf name new none) = nonEmpty? (new ++ new') := by
  rw [refit, getD_refit, Option.getD_none, List.filter_nil, List.nil_append,
    filter_unnamed_of_ne h hne]

end Refit

/-! ## The passes -/

/-- Volumes that go by one name, and mounts of it. -/
structure Fitting where
  name : String
  volumes : List Volume
  mounts : List VolumeMount
  name_of_mem_volumes : ∀ v ∈ volumes, v.name = name
  name_of_mem_mounts : ∀ m ∈ mounts, m.name = name

namespace Fitting

def ontoVolumes (x : Fitting) (vs : Option (List Volume)) : Option (List Volume) :=
  refit Volume.name x.name x.volumes vs

def ontoMounts (x : Fitting) (ms : Option (List VolumeMount)) : Option (List VolumeMount) :=
  refit VolumeMount.name x.name x.mounts ms

/-- A volume and its mount, or neither. -/
def single (wanted : Bool) (v : Volume) (path : String) (readOnly : Bool) : Fitting where
  name := v.name
  volumes := if wanted then [v] else []
  mounts := if wanted then [⟨v.name, path, some readOnly, ∅⟩] else []
  name_of_mem_volumes := by
    intro w hw
    rw [List.mem_ite_nil_right, List.mem_singleton] at hw
    rw [hw.2]
  name_of_mem_mounts := by
    intro w hw
    rw [List.mem_ite_nil_right, List.mem_singleton] at hw
    rw [hw.2]

variable {wanted : Bool} {v : Volume} {path : String} {readOnly : Bool}

theorem ontoVolumes_single (vs : Option (List Volume)) :
    (single wanted v path readOnly).ontoVolumes vs =
      if wanted then append v (removeVolume v.name vs) else removeVolume v.name vs := by
  cases wanted with
  | false => exact refit_nil
  | true => exact refit_singleton v

theorem ontoMounts_single (ms : Option (List VolumeMount)) :
    (single wanted v path readOnly).ontoMounts ms =
      if wanted then append ⟨v.name, path, some readOnly, ∅⟩ (removeMount v.name ms)
      else removeMount v.name ms := by
  cases wanted with
  | false => exact refit_nil
  | true => exact refit_singleton _

/-- The last to fit a name out decides about its volumes. -/
theorem ontoVolumes_ontoVolumes {x y : Fitting} (h : x.name = y.name)
    (vs : Option (List Volume)) : y.ontoVolumes (x.ontoVolumes vs) = y.ontoVolumes vs := by
  unfold ontoVolumes
  rw [← h]
  exact refit_refit x.name_of_mem_volumes y.volumes

theorem ontoMounts_ontoMounts {x y : Fitting} (h : x.name = y.name)
    (ms : Option (List VolumeMount)) : y.ontoMounts (x.ontoMounts ms) = y.ontoMounts ms := by
  unfold ontoMounts
  rw [← h]
  exact refit_refit x.name_of_mem_mounts y.mounts

end Fitting

/-- The volume behind a writable `/tmp`, if there is to be one. -/
def tempFitting (readOnly : Bool) : Fitting := .single readOnly tempVolume "/tmp" false

namespace FunctionSpec

def sources (s : FunctionSpec) (secrets : Secrets) : List VolumeProjection :=
  projectionSources (s.declaredSecrets secrets)

/-- The volume of the projected Secrets. -/
def secretsVolume (s : FunctionSpec) (secrets : Secrets) : Volume :=
  ⟨s.secretsVolumeName, none, some ⟨some (s.sources secrets), ∅⟩, ∅⟩

/-- That volume and a read-only mount of it, if there is something to project. -/
def secretsFitting (s : FunctionSpec) (secrets : Secrets) : Fitting :=
  .single (!(s.sources secrets).isEmpty) (s.secretsVolume secrets) secretsMountPath true

/-- Whatever the function is called, the volume of its Secrets does not go by the name of the other.
-/
theorem secretsVolumeName_ne (s : FunctionSpec) : s.secretsVolumeName ≠ tempVolumeName := by
  intro h
  have hlength := congrArg String.length h
  rw [secretsVolumeName, String.length_append] at hlength
  have hsuffix : "-projected-secrets".length = 18 := rfl
  have htemp : tempVolumeName.length = 4 := rfl
  omega

end FunctionSpec

namespace PodSpec

variable {p : PodSpec} {c : Container} {cs : List Container}

theorem configureReadOnly_nil (h : p.containers = []) (readOnly : Bool) :
    p.configureReadOnly readOnly = p := by
  simp only [configureReadOnly, withFirstContainer, h]

theorem configureReadOnly_cons (h : p.containers = c :: cs) (readOnly : Bool) :
    p.configureReadOnly readOnly =
      { p with
        volumes := (tempFitting readOnly).ontoVolumes p.volumes
        containers :=
          { c.setReadOnly readOnly with
            volumeMounts := (tempFitting readOnly).ontoMounts c.volumeMounts } :: cs } := by
  simp only [configureReadOnly, withFirstContainer, h, tempFitting, Fitting.ontoVolumes_single,
    Fitting.ontoMounts_single]
  rfl

theorem updateSecrets_nil (h : p.containers = []) (s : FunctionSpec) (secrets : Secrets) :
    p.updateSecrets s secrets = p := by
  simp only [updateSecrets, withFirstContainer, h]

theorem updateSecrets_cons (h : p.containers = c :: cs) (s : FunctionSpec) (secrets : Secrets) :
    p.updateSecrets s secrets =
      { p with
        imagePullSecrets := nonEmpty? (pullSecrets (s.declaredSecrets secrets))
        volumes := (s.secretsFitting secrets).ontoVolumes p.volumes
        containers :=
          { c with
            volumeMounts := (s.secretsFitting secrets).ontoMounts c.volumeMounts } :: cs } := by
  simp only [updateSecrets, withFirstContainer, h, FunctionSpec.secretsFitting,
    Fitting.ontoVolumes_single, Fitting.ontoMounts_single, FunctionSpec.secretsVolume,
    FunctionSpec.sources]
  -- the code asks whether there are no sources, the fitting whether there are some
  cases (projectionSources (s.declaredSecrets secrets)).isEmpty <;> rfl

end PodSpec

/-! ## The pod of a Deployment -/

namespace Deployment

theorem pod?_mapPod (g : PodSpec → PodSpec) (d : Deployment) :
    (d.mapPod g).pod? = d.pod?.map g := by
  cases h : d.spec with
  | none => simp [pod?, mapPod, h]
  | some s => simp [pod?, mapPod, h]

theorem mapPod_mapPod (g g' : PodSpec → PodSpec) (d : Deployment) :
    (d.mapPod g).mapPod g' = d.mapPod fun p => g' (g p) := by
  cases h : d.spec with
  | none => simp [mapPod, h]
  | some s => simp [mapPod, h, Function.comp_def]

theorem mapPod_congr {d : Deployment} {g g' : PodSpec → PodSpec}
    (h : ∀ p, d.pod? = some p → g p = g' p) : d.mapPod g = d.mapPod g' := by
  obtain ⟨metadata, spec, status⟩ := d
  cases spec with
  | none => rfl
  | some s =>
      cases hp : s.template.spec with
      | none => simp [mapPod, hp]
      | some p =>
          have hsame : g p = g' p := h p hp
          simp [mapPod, hp, hsame]

theorem mapPod_id (d : Deployment) : (d.mapPod fun p => p) = d := by
  obtain ⟨metadata, spec, status⟩ := d
  cases spec with
  | none => rfl
  | some s => simp [mapPod]

end Deployment

namespace FunctionSpec

def podVolumes (s : FunctionSpec) (secrets : Secrets) : List Volume :=
  (tempFitting s.readOnlyRootFilesystem).volumes ++ (s.secretsFitting secrets).volumes

def podMounts (s : FunctionSpec) (secrets : Secrets) : List VolumeMount :=
  (tempFitting s.readOnlyRootFilesystem).mounts ++ (s.secretsFitting secrets).mounts

theorem eq_of_mem_podVolumes {s : FunctionSpec} {secrets : Secrets} {v : Volume}
    (h : v ∈ s.podVolumes secrets) : v = tempVolume ∨ v = s.secretsVolume secrets := by
  rcases List.mem_append.mp h with h | h
  · exact .inl (List.mem_singleton.mp (List.mem_ite_nil_right.mp h).2)
  · exact .inr (List.mem_singleton.mp (List.mem_ite_nil_right.mp h).2)

end FunctionSpec

theorem FunctionObject.pod?_deployment (f : FunctionObject) (owner : OwnerReference)
    (secrets : Secrets) (policy : PullPolicy) :
    (f.deployment owner secrets policy).pod? = some
      { f.pod policy with
        imagePullSecrets := nonEmpty? (pullSecrets (f.spec.declaredSecrets secrets))
        volumes := nonEmpty? (f.spec.podVolumes secrets)
        containers :=
          [{ (f.container policy).setReadOnly f.spec.readOnlyRootFilesystem with
             volumeMounts := nonEmpty? (f.spec.podMounts secrets) }] } := by
  have hpod : (f.bareDeployment owner policy).pod? = some (f.pod policy) := rfl
  -- the Secrets come second, and leave the temporary volume where it is
  have hvolumes : (f.spec.secretsFitting secrets).ontoVolumes
      ((tempFitting f.spec.readOnlyRootFilesystem).ontoVolumes none) =
        nonEmpty? (f.spec.podVolumes secrets) :=
    refit_of_ne (tempFitting _).name_of_mem_volumes f.spec.secretsVolumeName_ne.symm
  have hmounts : (f.spec.secretsFitting secrets).ontoMounts
      ((tempFitting f.spec.readOnlyRootFilesystem).ontoMounts none) =
        nonEmpty? (f.spec.podMounts secrets) :=
    refit_of_ne (tempFitting _).name_of_mem_mounts f.spec.secretsVolumeName_ne.symm
  rw [deployment, Deployment.updateSecrets, Deployment.configureReadOnly, Deployment.pod?_mapPod,
    Deployment.pod?_mapPod, hpod, Option.map_some, Option.map_some,
    PodSpec.configureReadOnly_cons rfl, PodSpec.updateSecrets_cons rfl, ← hvolumes, ← hmounts]
  rfl

end FaasOperator
