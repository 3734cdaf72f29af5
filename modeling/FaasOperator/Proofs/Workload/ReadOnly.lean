/-
# `FaasOperator.Proofs.Workload.ReadOnly` — making the root filesystem read-only and writable again

On any Deployment, however its volumes and mounts came about and whatever flags were set before,
only the last flag is left to see (`last_flag_wins`).  What that flag leaves behind is told as well
(`Deployment.Toggled`): the first container has the flag and the mount that goes with it, the pod
has the volume, and nothing else is touched but what goes by their name.
-/
import FaasOperator.Proofs.Workload.Volumes

namespace FaasOperator

/-! ## What one flag leaves behind -/

/-- By the name go exactly the new elements; the others are those from before, in order; and an
empty list is left out. -/
structure Refitted {α : Type} (nameOf : α → String) (name : String) (new : List α)
    (before after : Option (List α)) : Prop where
  named : (after.getD []).filter (fun x => nameOf x == name) = new
  others : (after.getD []).filter (fun x => nameOf x != name) =
    (before.getD []).filter fun x => nameOf x != name
  absent : after ≠ some []

/-- The container has the flag and the mount that goes with it, and is otherwise as before. -/
structure Container.Toggled (readOnly : Bool) (c c' : Container) : Prop where
  flag : c'.securityContext.bind (·.readOnlyRootFilesystem) = some readOnly
  securityContext : { c'.securityContext.getD .empty with readOnlyRootFilesystem := none } =
    { c.securityContext.getD .empty with readOnlyRootFilesystem := none }
  volumeMounts : Refitted VolumeMount.name tempVolumeName (if readOnly then [tempMount] else [])
    c.volumeMounts c'.volumeMounts
  others : { c' with securityContext := none, volumeMounts := none } =
    { c with securityContext := none, volumeMounts := none }

structure PodSpec.Toggled (readOnly : Bool) (p p' : PodSpec) : Prop where
  containers : ∃ c c' cs, p.containers = c :: cs ∧ p'.containers = c' :: cs ∧ c.Toggled readOnly c'
  volumes : Refitted Volume.name tempVolumeName (if readOnly then [tempVolume] else [])
    p.volumes p'.volumes
  others : { p' with containers := [], volumes := none } =
    { p with containers := [], volumes := none }

/-- Where there is a pod with a container, only the pod is changed; elsewhere nothing is. -/
inductive Deployment.Toggled (readOnly : Bool) (d : Deployment) : Deployment → Prop
  | pod {p p' : PodSpec} : d.pod? = some p → p.Toggled readOnly p' →
      Toggled readOnly d (d.mapPod fun _ => p')
  | noContainer : (∀ p, d.pod? = some p → p.containers = []) → Toggled readOnly d d

theorem refitted_refit {α : Type} {nameOf : α → String} {name : String} {new : List α}
    (h : ∀ x ∈ new, nameOf x = name) (xs : Option (List α)) :
    Refitted nameOf name new xs (refit nameOf name new xs) where
  named := by
    rw [getD_refit, List.filter_append, filter_named h, List.filter_filter]
    simp
  others := by
    rw [getD_refit, List.filter_append, filter_unnamed h, List.append_nil, List.filter_filter]
    simp only [Bool.and_self]
  absent := nonEmpty?_ne_some_nil _

theorem PodSpec.toggled_configureReadOnly {p : PodSpec} {c : Container} {cs : List Container}
    (h : p.containers = c :: cs) (readOnly : Bool) :
    p.Toggled readOnly (p.configureReadOnly readOnly) := by
  rw [configureReadOnly_cons h]
  refine ⟨⟨c, _, cs, h, rfl, ?_⟩, ?_, rfl⟩
  · exact ⟨rfl, rfl, refitted_refit (tempFitting readOnly).name_of_mem_mounts _, rfl⟩
  · exact refitted_refit (tempFitting readOnly).name_of_mem_volumes _

theorem Deployment.toggled_configureReadOnly (d : Deployment) (readOnly : Bool) :
    d.Toggled readOnly (d.configureReadOnly readOnly) := by
  by_cases h : ∃ p c cs, d.pod? = some p ∧ p.containers = c :: cs
  · obtain ⟨p, c, cs, hpod, hcons⟩ := h
    have hchange : d.configureReadOnly readOnly =
        d.mapPod fun _ => p.configureReadOnly readOnly := by
      apply mapPod_congr
      intro q hq
      rw [hpod] at hq
      cases hq
      rfl
    rw [hchange]
    exact .pod hpod (PodSpec.toggled_configureReadOnly hcons readOnly)
  · have hnil : ∀ p, d.pod? = some p → p.containers = [] := by
      intro p hp
      cases hcons : p.containers with
      | nil => rfl
      | cons c cs => exact absurd ⟨p, c, cs, hp, hcons⟩ h
    have hsame : d.configureReadOnly readOnly = d := by
      rw [configureReadOnly, mapPod_congr fun p hp => PodSpec.configureReadOnly_nil (hnil p hp) _]
      exact mapPod_id d
    rw [hsame]
    exact .noContainer hnil

/-! ## One flag after the other -/

theorem PodSpec.configureReadOnly_configureReadOnly (first second : Bool) (p : PodSpec) :
    (p.configureReadOnly first).configureReadOnly second = p.configureReadOnly second := by
  cases h : p.containers with
  | nil => rw [configureReadOnly_nil h]
  | cons c cs =>
      have hname : (tempFitting first).name = (tempFitting second).name := rfl
      have hvolumes := Fitting.ontoVolumes_ontoVolumes hname p.volumes
      have hmounts := Fitting.ontoMounts_ontoMounts hname c.volumeMounts
      rw [configureReadOnly_cons h, configureReadOnly_cons rfl, configureReadOnly_cons h, ← hvolumes,
        ← hmounts]
      rfl

theorem Deployment.configureReadOnly_configureReadOnly (first second : Bool) (d : Deployment) :
    (d.configureReadOnly first).configureReadOnly second = d.configureReadOnly second := by
  unfold configureReadOnly
  rw [mapPod_mapPod]
  simp only [PodSpec.configureReadOnly_configureReadOnly]

theorem Deployment.configureReadOnly_foldl (d : Deployment) (earlier : List Bool) (last : Bool) :
    (earlier.foldl (fun d flag => d.configureReadOnly flag) d).configureReadOnly last =
      d.configureReadOnly last := by
  induction earlier generalizing d with
  | nil => rfl
  | cons first rest ih =>
      rw [List.foldl_cons, ih]
      exact d.configureReadOnly_configureReadOnly first last

/-- Whatever flags were set one after the other, and on whatever Deployment, the result is that of
the last flag alone; and that flag leaves behind what it says and nothing else. -/
theorem last_flag_wins (d : Deployment) (earlier : List Bool) (last : Bool) :
    (earlier ++ [last]).foldl (fun d flag => d.configureReadOnly flag) d =
      d.configureReadOnly last ∧
    d.Toggled last (d.configureReadOnly last) := by
  constructor
  · rw [List.foldl_append]
    exact d.configureReadOnly_foldl earlier last
  · exact d.toggled_configureReadOnly last

end FaasOperator
