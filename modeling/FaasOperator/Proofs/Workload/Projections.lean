/-
# `FaasOperator.Proofs.Workload.Projections` — where the Secrets of a function turn up on its pod

Each of them is named once, as a pull secret or as a source of the projected volume, and a source
has every key of its Secret once (`FunctionObject.holds_deployment`).  The declared names themselves
may repeat; what is left of them is each name once, in the order of the first occurrences
(`EachOnce`).
-/
import Mathlib.Data.List.Forall2
import FaasOperator.Proofs.StringMap
import FaasOperator.Proofs.Workload.Volumes

namespace FaasOperator

/-! ## Each once -/

/-- The first list has what the second has, each once and where it comes first. -/
structure EachOnce (once xs : List String) : Prop where
  mem_iff : ∀ x, x ∈ once ↔ x ∈ xs
  order : once.Pairwise fun x y => xs.idxOf x < xs.idxOf y

theorem EachOnce.nodup {once xs : List String} (h : EachOnce once xs) : once.Nodup := by
  refine h.order.imp fun {x y} hlt => ?_
  rintro rfl
  exact absurd hlt (Nat.lt_irrefl _)

theorem idxOf_lt_of_filter {p : String → Bool} {x y : String} {xs : List String}
    (hy : p y = true) (h : (xs.filter p).idxOf x < (xs.filter p).idxOf y) :
    xs.idxOf x < xs.idxOf y := by
  induction xs with
  | nil => exact absurd h (Nat.lt_irrefl _)
  | cons a xs ih =>
      by_cases hay : a = y
      · -- nothing comes before the first element
        subst hay
        rw [List.filter_cons_of_pos hy, List.idxOf_cons_self] at h
        exact absurd h (Nat.not_lt_zero _)
      · rw [List.idxOf_cons_ne _ hay]
        by_cases hax : a = x
        · rw [List.idxOf_cons_eq _ hax]
          exact Nat.succ_pos _
        · rw [List.idxOf_cons_ne _ hax]
          apply Nat.succ_lt_succ
          apply ih
          by_cases ha : p a = true
          · rw [List.filter_cons_of_pos ha, List.idxOf_cons_ne _ hax, List.idxOf_cons_ne _ hay] at h
            exact Nat.lt_of_succ_lt_succ h
          · rwa [List.filter_cons_of_neg ha] at h

theorem eachOnce_eraseDups (xs : List String) : EachOnce xs.eraseDups xs := by
  refine ⟨fun x => List.mem_eraseDups, ?_⟩
  induction hn : xs.length using Nat.strongRecOn generalizing xs with
  | ind n ih =>
      cases xs with
      | nil => exact .nil
      | cons x xs =>
          have hshort : (xs.filter fun b => !b == x).length < n := by
            have hle := List.length_filter_le (fun b => !b == x) xs
            rw [List.length_cons] at hn
            omega
          have hother {y : String} (hy : y ∈ (xs.filter fun b => !b == x).eraseDups) :
              (!y == x) = true := (List.mem_filter.mp (List.mem_eraseDups.mp hy)).2
          have hne {y : String} (hy : y ∈ (xs.filter fun b => !b == x).eraseDups) : x ≠ y := by
            rintro rfl
            simpa using hother hy
          rw [List.eraseDups_cons]
          refine List.pairwise_cons.mpr ⟨fun y hy => ?_, ?_⟩
          · rw [List.idxOf_cons_self, List.idxOf_cons_ne _ (hne hy)]
            exact Nat.succ_pos _
          · refine (ih _ hshort _ rfl).imp_of_mem fun {y z} hy hz hlt => ?_
            rw [List.idxOf_cons_ne _ (hne hy), List.idxOf_cons_ne _ (hne hz)]
            exact Nat.succ_lt_succ (idxOf_lt_of_filter (hother hz) hlt)

/-! ## What a pod holds -/

/-- Every key of the Secret, each once and in order, as a file of its name. -/
def VolumeProjection.ProjectsAll (source : VolumeProjection) (name : String) (s : Secret) : Prop :=
  ∃ items, source = ⟨some ⟨name, some items, ∅⟩, ∅⟩ ∧ (∀ i ∈ items, i = ⟨i.key, i.key, ∅⟩) ∧
    (items.map (·.key)).Pairwise (· < ·) ∧
    ∀ key, key ∈ items.map (·.key) ↔ (s.data.getD ∅).contains key = true

def PodSpec.projections (p : PodSpec) : List VolumeProjection :=
  (p.volumes.getD []).flatMap fun v => (v.projected.bind (·.sources)).getD []

/-- The pod pulls with those of the Secrets that are registry credentials, and has all others
projected, in their order and each once. -/
structure PodSpec.Holds (p : PodSpec) (read : List (String × Secret)) : Prop where
  imagePullSecrets : p.imagePullSecrets.getD [] =
    (read.filter fun e => e.2.isRegistryCredential).map (·.1)
  projections : List.Forall₂ (fun e source => VolumeProjection.ProjectsAll source e.1 e.2)
    (read.filter fun e => !e.2.isRegistryCredential) p.projections

theorem Secret.projectsAll_projection (name : String) (s : Secret) :
    (s.projection name).ProjectsAll name s := by
  have hkeys : s.dataKeys = (s.data.getD ∅).keys := by
    unfold dataKeys
    cases s.data with
    | none => rfl
    | some m => rfl
  have hitems : (s.dataKeys.map fun key => (⟨key, key, ∅⟩ : KeyToPath)).map (·.key) =
      (s.data.getD ∅).keys := by
    rw [List.map_map, ← hkeys]
    exact List.map_id _
  refine ⟨_, rfl, ?_, ?_, ?_⟩
  · intro i hi
    obtain ⟨key, -, rfl⟩ := List.mem_map.mp hi
    rfl
  · rw [hitems]
    exact StringMap.sorted_keys _
  · intro key
    rw [hitems]
    exact StringMap.mem_keys_iff _ key

namespace FunctionSpec

theorem flatMap_podVolumes (s : FunctionSpec) (secrets : Secrets) :
    ((s.podVolumes secrets).flatMap fun v => (v.projected.bind (·.sources)).getD []) =
      s.sources secrets := by
  unfold podVolumes tempFitting secretsFitting Fitting.single
  cases s.readOnlyRootFilesystem <;> cases h : s.sources secrets <;>
    simp [tempVolume, secretsVolume, h]

/-- Secrets that were read under each declared name are those that are declared. -/
theorem declaredSecrets_ofList {s : FunctionSpec} {read : List (String × Secret)}
    (h : read.map (·.1) = s.secretNames) : s.declaredSecrets (.ofList read) = read := by
  have hnodup : (read.map (·.1)).Nodup := h ▸ (eachOnce_eraseDups _).nodup
  have hfound : ∀ e ∈ read,
      ((StringMap.ofList read).get? e.1).map (e.1, ·) = some e := fun e he => by
    rw [StringMap.get?_ofList_of_mem hnodup he]
    rfl
  rw [declaredSecrets, ← h, List.filterMap_map]
  exact (List.filterMap_congr hfound).trans List.filterMap_some

end FunctionSpec

theorem FunctionObject.holds_deployment {f : FunctionObject} {read : List (String × Secret)}
    (h : read.map (·.1) = f.spec.secretNames) (owner : OwnerReference) (policy : PullPolicy) :
    ∃ p, (f.deployment owner (.ofList read) policy).pod? = some p ∧ p.Holds read := by
  refine ⟨_, f.pod?_deployment owner (.ofList read) policy, ?_, ?_⟩
  · rw [getD_nonEmpty?, FunctionSpec.declaredSecrets_ofList h]
    rfl
  · rw [PodSpec.projections, getD_nonEmpty?, FunctionSpec.flatMap_podVolumes, FunctionSpec.sources,
      FunctionSpec.declaredSecrets_ofList h, projectionSources, List.forall₂_map_right_iff,
      List.forall₂_same]
    exact fun e _ => e.2.projectsAll_projection e.1

end FaasOperator
