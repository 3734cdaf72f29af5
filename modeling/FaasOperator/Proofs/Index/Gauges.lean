/-
# `FaasOperator.Proofs.Index.Gauges` — which namespaces are kept, and what the gauges tell

Everything that a notification does comes down to changes of a namespace, marks and counts, so a
property that these keep is true of every index that can be reached (`Stable.reachable`).  Two such
properties together leave nothing to choose: a namespace is kept as long as it has an object, the
gauges say how many each one has (`Tidy`), and both of them speak of the same namespaces
(`Labelled`).  So two indexes in which the same is found, and whose gauges speak of the same
namespaces, hold and tell the same (`Reachable.sameContent`).
-/
import FaasOperator.Proofs.Index.Notify

namespace FaasOperator

theorem MetricFamily.value_set (m : MetricFamily) (label label' : String) (n : Nat) :
    (m.set label n).value label' = if label' = label then n else m.value label' := by
  unfold value MetricFamily.set
  rw [StringMap.get?_insert]
  split <;> rfl

theorem MetricFamily.contains_set (m : MetricFamily) (label label' : String) (n : Nat) :
    (m.set label n).contains label' = true ↔ m.contains label' = true ∨ label' = label := by
  unfold StringMap.contains MetricFamily.set
  rw [StringMap.get?_insert]
  split <;> simp [*]

theorem MetricFamily.ext_value {m m' : MetricFamily}
    (hcontains : ∀ label, m.contains label = m'.contains label)
    (hvalue : ∀ label, m.value label = m'.value label) : m = m' := by
  apply StringMap.ext_get?
  intro label
  have hlabel := hcontains label
  have hnumber := hvalue label
  unfold StringMap.contains at hlabel
  unfold value at hnumber
  cases hm : m.get? label <;> cases hm' : m'.get? label <;> simp_all

namespace Index

/-! ## What stays true -/

/-- The property stays true when something is counted besides the objects, when a kind is marked as
listed, and when a namespace changes in any way. -/
structure Stable (P : Index → Prop) : Prop where
  counts : ∀ i m, m.functions = i.metrics.functions → m.deployments = i.metrics.deployments →
    P i → P { i with metrics := m }
  functionsSynced : ∀ i, P i → P { i with functionsSynced := true }
  deploymentsSynced : ∀ i, P i → P { i with deploymentsSynced := true }
  updateSpace : ∀ i ns f, P i → P (i.updateSpace ns f)

namespace Stable

variable {P : Index → Prop} {i : Index}

theorem ignore (h : Stable P) (reason : Ignored) (hi : P i) : P (i.ignore reason).1 :=
  h.counts i (i.metrics.ignore reason) rfl rfl hi

theorem enqueue (h : Stable P) (cause : Cause) (keys : List ResourceKey) (hi : P i) :
    P (i.enqueue cause keys).1 :=
  h.counts i (i.metrics.enqueued cause keys.length) rfl rfl hi

theorem enqueueOwner (h : Stable P) (d : Deployment) (hi : P i) : P (i.enqueueOwner d).1 := by
  unfold Index.enqueueOwner
  split
  · exact h.ignore _ hi
  · split
    · exact h.ignore _ hi
    · dsimp only
      split
      · exact h.ignore _ hi
      · exact h.enqueue _ _ hi

theorem applyFunction (h : Stable P) (f : FunctionObject) (hi : P i) :
    P (Index.applyFunction f i).1 := by
  unfold Index.applyFunction
  split
  · exact h.ignore _ hi
  · exact h.enqueue _ _ (h.updateSpace i _ _ hi)

theorem deleteFunction (h : Stable P) (key : ResourceKey) (hi : P i) :
    P (Index.deleteFunction key i).1 :=
  h.updateSpace i key.ns (fun s => { s with functions := s.functions.erase key.name }) hi

theorem applyDeployment (h : Stable P) (d : Deployment) (hi : P i) :
    P (Index.applyDeployment d i).1 := by
  unfold Index.applyDeployment
  split
  · exact h.ignore _ hi
  · dsimp only
    split
    · exact h.ignore _ (h.updateSpace i _ _ hi)
    · exact h.enqueueOwner d (h.updateSpace i _ _ hi)

theorem deleteDeployment (h : Stable P) (key : ResourceKey) (hi : P i) :
    P (Index.deleteDeployment key i).1 := by
  unfold Index.deleteDeployment
  split
  · exact h.ignore _ hi
  · exact h.enqueueOwner _ (h.updateSpace i _ _ hi)

theorem each {α : Type} {step : α → Index → Routed} (hstep : ∀ x i, P i → P (step x i).1)
    (xs : List α) {r : Routed} (hr : P r.1) : P (Index.each step xs r).1 :=
  each_induction (P := fun r => P r.1) hr fun x _ i _ hi => hstep x i hi

theorem notify (h : Stable P) (n : Notification) (hi : P i) : P (i.notify n).1 := by
  cases n with
  | applyFunction f => exact h.applyFunction f hi
  | deleteFunction key => exact h.deleteFunction key hi
  | resetFunctions fs removed =>
      have happly : P (Index.each Index.applyFunction fs (i, [])).1 :=
        each (r := (i, [])) (fun f _ hj => h.applyFunction f hj) fs hi
      exact h.functionsSynced _ (each (fun key _ hj => h.deleteFunction key hj) removed happly)
  | applyDeployment d => exact h.applyDeployment d hi
  | deleteDeployment key => exact h.deleteDeployment key hi
  | resetDeployments ds removed =>
      have happly : P (Index.each Index.applyDeployment ds (i, [])).1 :=
        each (r := (i, [])) (fun d _ hj => h.applyDeployment d hj) ds hi
      exact h.deploymentsSynced _ (each (fun key _ hj => h.deleteDeployment key hj) removed happly)

theorem resync (h : Stable P) (hi : P i) : P i.resync.1 := h.enqueue _ _ hi

theorem reachable (h : Stable P) (hempty : P Index.empty) (hi : i.Reachable) : P i := by
  induction hi with
  | empty => exact hempty
  | notify n _ ih => exact h.notify n ih
  | resync _ ih => exact h.resync ih

end Stable

/-! ## Namespaces and gauges -/

/-- The same objects are held, and the gauges tell the same. -/
structure SameContent (i j : Index) : Prop where
  namespaces : j.namespaces = i.namespaces
  functions : j.metrics.functions = i.metrics.functions
  deployments : j.metrics.deployments = i.metrics.deployments

/-- Every namespace that is kept has an object, and the gauges tell how many each one has. -/
structure Tidy (i : Index) : Prop where
  kept : ∀ ns s, i.namespaces.get? ns = some s →
    s.functions.isEmpty = false ∨ s.deployments.isEmpty = false
  functions : ∀ ns, i.metrics.functions.value ns = (i.space ns).functions.size
  deployments : ∀ ns, i.metrics.deployments.value ns = (i.space ns).deployments.size

variable {i j : Index}

theorem tidy_empty : empty.Tidy where
  kept := nofun
  functions := fun _ => rfl
  deployments := fun _ => rfl

theorem Tidy.congr (h : i.Tidy) (hsame : i.SameContent j) : j.Tidy := by
  have hspace (ns : String) : j.space ns = i.space ns := by
    rw [space, hsame.namespaces, space]
  constructor
  · rw [hsame.namespaces]
    exact h.kept
  · intro ns
    rw [hsame.functions, hspace]
    exact h.functions ns
  · intro ns
    rw [hsame.deployments, hspace]
    exact h.deployments ns

theorem Tidy.updateSpace (h : i.Tidy) (ns : String) (f : NamespaceIndex → NamespaceIndex) :
    (i.updateSpace ns f).Tidy where
  kept := by
    intro ns' s hs
    unfold Index.updateSpace at hs
    simp only at hs
    split at hs
    · rw [StringMap.get?_erase] at hs
      split at hs
      · cases hs
      · exact h.kept ns' s hs
    · rename_i hempty
      rw [StringMap.get?_insert] at hs
      split at hs
      · cases hs
        rw [Bool.not_eq_true, Bool.and_eq_false_iff] at hempty
        exact hempty
      · exact h.kept ns' s hs
  functions := by
    intro ns'
    rw [space_updateSpace, apply_ite NamespaceIndex.functions, apply_ite StringMap.size,
      ← h.functions ns']
    exact MetricFamily.value_set _ ns ns' _
  deployments := by
    intro ns'
    rw [space_updateSpace, apply_ite NamespaceIndex.deployments, apply_ite StringMap.size,
      ← h.deployments ns']
    exact MetricFamily.value_set _ ns ns' _

theorem stable_tidy : Stable Tidy where
  counts := fun _ _ hf hd hi => hi.congr ⟨rfl, hf, hd⟩
  functionsSynced := fun _ hi => hi.congr ⟨rfl, rfl, rfl⟩
  deploymentsSynced := fun _ hi => hi.congr ⟨rfl, rfl, rfl⟩
  updateSpace := fun _ ns f hi => hi.updateSpace ns f

theorem Reachable.tidy (hi : i.Reachable) : i.Tidy := stable_tidy.reachable tidy_empty hi

theorem Tidy.get?_namespaces (hi : i.Tidy) (ns : String) :
    i.namespaces.get? ns =
      if (i.space ns).functions.isEmpty && (i.space ns).deployments.isEmpty then none
      else some (i.space ns) := by
  cases hs : i.namespaces.get? ns with
  | none =>
      have hspace : i.space ns = .empty := by
        rw [space, hs]
        rfl
      rw [hspace]
      rfl
  | some s =>
      have hspace : i.space ns = s := by
        rw [space, hs]
        rfl
      have hkept := hi.kept ns s hs
      rw [← Bool.and_eq_false_iff] at hkept
      rw [hspace, hkept]
      rfl

theorem space_eq (hf : i.function? = j.function?) (hd : i.deployment? = j.deployment?) :
    i.space = j.space := by
  funext ns
  have hfunctions : (i.space ns).functions = (j.space ns).functions :=
    StringMap.ext_get? fun name => congrFun hf ⟨ns, name⟩
  have hdeployments : (i.space ns).deployments = (j.space ns).deployments :=
    StringMap.ext_get? fun name => congrFun hd ⟨ns, name⟩
  show NamespaceIndex.mk (i.space ns).functions (i.space ns).deployments = _
  rw [hfunctions, hdeployments]

/-- Two indexes in which the same is found hold the same. -/
theorem Tidy.namespaces_eq (hi : i.Tidy) (hj : j.Tidy) (hf : i.function? = j.function?)
    (hd : i.deployment? = j.deployment?) : i.namespaces = j.namespaces := by
  apply StringMap.ext_get?
  intro ns
  rw [hi.get?_namespaces, hj.get?_namespaces, space_eq hf hd]

def Labelled (i : Index) : Prop :=
  ∀ ns, i.metrics.functions.contains ns = i.metrics.deployments.contains ns

theorem stable_labelled : Stable Labelled where
  counts := by
    intro i m hf hd hi ns
    rw [hf, hd]
    exact hi ns
  functionsSynced := fun _ hi => hi
  deploymentsSynced := fun _ hi => hi
  updateSpace := by
    intro i ns f hi ns'
    rw [Bool.eq_iff_iff]
    show (i.metrics.functions.set ns _).contains ns' = true ↔
      (i.metrics.deployments.set ns _).contains ns' = true
    rw [MetricFamily.contains_set, MetricFamily.contains_set, hi ns']

theorem Reachable.labelled (hi : i.Reachable) : i.Labelled :=
  stable_labelled.reachable (fun _ => rfl) hi

theorem Tidy.contains_of_deployment? (hi : i.Tidy) {k : ResourceKey} {d : Deployment}
    (h : i.deployment? k = some d) : i.metrics.deployments.contains k.ns = true := by
  have hmem : (k.name, d) ∈ (i.space k.ns).deployments.entries :=
    (StringMap.mem_entries_iff _ _ _).mpr h
  have hsize : i.metrics.deployments.value k.ns ≠ 0 := by
    rw [hi.deployments]
    exact Nat.ne_of_gt (List.length_pos_of_mem hmem)
  unfold StringMap.contains
  cases hget : i.metrics.deployments.get? k.ns with
  | some _ => rfl
  | none =>
      rw [MetricFamily.value, hget] at hsize
      exact absurd rfl hsize

theorem Reachable.sameContent (hi : i.Reachable) (hj : j.Reachable)
    (hf : i.function? = j.function?) (hd : i.deployment? = j.deployment?)
    (hlabels : ∀ ns, i.metrics.deployments.contains ns = j.metrics.deployments.contains ns) :
    i.SameContent j where
  namespaces := (hi.tidy.namespaces_eq hj.tidy hf hd).symm
  functions := by
    refine MetricFamily.ext_value (fun ns => ?_) fun ns => ?_
    · rw [hi.labelled ns, hj.labelled ns, hlabels]
    · rw [hi.tidy.functions, hj.tidy.functions, space_eq hf hd]
  deployments := by
    refine MetricFamily.ext_value (fun ns => (hlabels ns).symm) fun ns => ?_
    rw [hi.tidy.deployments, hj.tidy.deployments, space_eq hf hd]

end Index

end FaasOperator
