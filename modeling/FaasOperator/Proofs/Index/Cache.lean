/-
# `FaasOperator.Proofs.Index.Cache` — what the index holds after a notification

It is told by lookups: an applied object is found under its own key, a deleted one is not found, and
every other key is as before (`function?_applyFunction` and its companions).  The equations are
derived from one about a change of a namespace at one name (`get?_updateSpace`), so that a namespace
that is dropped because nothing is left in it needs no case of its own.
-/
import FaasOperator.Index
import FaasOperator.Proofs.StringMap

namespace FaasOperator

theorem ResourceKey.name_ne {key k : ResourceKey} (hns : key.ns = k.ns) (h : key ≠ k) :
    key.name ≠ k.name := by
  obtain ⟨ns, name⟩ := key
  obtain ⟨ns', name'⟩ := k
  rintro rfl
  cases hns
  exact h rfl

theorem ObjectMeta.key?_eq_some_iff {m : ObjectMeta} {key : ResourceKey} :
    m.key? = some key ↔
      m.ns = some key.ns ∧ m.name = some key.name ∧ key.ns.isEmpty = false ∧
        key.name.isEmpty = false := by
  unfold ObjectMeta.key?
  constructor
  · intro h
    split at h
    · rename_i ns name hns hname
      split at h
      · cases h
      · rename_i hempty
        cases h
        rw [Bool.not_eq_true, Bool.or_eq_false_iff] at hempty
        exact ⟨hns, hname, hempty⟩
    · cases h
  · rintro ⟨hns, hname, hns', hname'⟩
    simp only [hns, hname, hns', hname', Bool.or_self]
    rfl

theorem ObjectMeta.anyNamespace_of_key? {m : ObjectMeta} {key : ResourceKey}
    (h : m.key? = some key) : m.anyNamespace = key.ns := by
  obtain ⟨hns, -⟩ := ObjectMeta.key?_eq_some_iff.mp h
  rw [ObjectMeta.anyNamespace, hns]
  rfl

namespace Index

/-! ## Namespaces -/

theorem space_eq_empty {s : NamespaceIndex}
    (h : (s.functions.isEmpty && s.deployments.isEmpty) = true) : s = .empty := by
  rw [Bool.and_eq_true] at h
  obtain ⟨functions, deployments⟩ := s
  have hfunctions : functions = ∅ := StringMap.eq_empty_of_isEmpty h.1
  have hdeployments : deployments = ∅ := StringMap.eq_empty_of_isEmpty h.2
  rw [hfunctions, hdeployments]
  rfl

theorem space_updateSpace (i : Index) (ns : String) (f : NamespaceIndex → NamespaceIndex)
    (ns' : String) :
    (i.updateSpace ns f).space ns' = if ns' = ns then f (i.space ns) else i.space ns' := by
  by_cases h : ((f (i.space ns)).functions.isEmpty && (f (i.space ns)).deployments.isEmpty) = true
  · have he : (i.updateSpace ns f).namespaces = i.namespaces.erase ns := if_pos h
    rw [space, he, StringMap.get?_erase]
    split
    · exact (space_eq_empty h).symm
    · rfl
  · have he : (i.updateSpace ns f).namespaces = i.namespaces.insert ns (f (i.space ns)) := if_neg h
    rw [space, he, StringMap.get?_insert]
    split <;> rfl

section Field

variable {α : Type} (field : NamespaceIndex → StringMap α)

/-- A change of a namespace at one name, in the functions or in the Deployments, is a change at one
key. -/
theorem get?_updateSpace (i : Index) (k : ResourceKey) {f : NamespaceIndex → NamespaceIndex}
    (hf : ∀ s name, name ≠ k.name → (field (f s)).get? name = (field s).get? name)
    (key : ResourceKey) :
    (field ((i.updateSpace k.ns f).space key.ns)).get? key.name =
      if key = k then (field (f (i.space k.ns))).get? k.name
      else (field (i.space key.ns)).get? key.name := by
  rw [space_updateSpace]
  by_cases hkey : key = k
  · rw [hkey, if_pos rfl, if_pos rfl]
  · rw [if_neg hkey]
    split
    · rename_i hns
      rw [hf _ _ (ResourceKey.name_ne hns hkey), hns]
    · rfl

theorem field_updateSpace (i : Index) (ns : String) {f : NamespaceIndex → NamespaceIndex}
    (hf : ∀ s, field (f s) = field s) (ns' : String) :
    field ((i.updateSpace ns f).space ns') = field (i.space ns') := by
  rw [space_updateSpace]
  split
  · rename_i h
    rw [hf, h]
  · rfl

end Field

theorem function?_updateSpace (i : Index) (k : ResourceKey)
    (g : StringMap FunctionObject → StringMap FunctionObject)
    (hg : ∀ m name, name ≠ k.name → (g m).get? name = m.get? name) (key : ResourceKey) :
    (i.updateSpace k.ns fun s => { s with functions := g s.functions }).function? key =
      if key = k then (g (i.space k.ns).functions).get? k.name else i.function? key :=
  get?_updateSpace (·.functions) i k (fun s => hg s.functions) key

theorem deployment?_updateSpace (i : Index) (k : ResourceKey)
    (g : StringMap Deployment → StringMap Deployment)
    (hg : ∀ m name, name ≠ k.name → (g m).get? name = m.get? name) (key : ResourceKey) :
    (i.updateSpace k.ns fun s => { s with deployments := g s.deployments }).deployment? key =
      if key = k then (g (i.space k.ns).deployments).get? k.name else i.deployment? key :=
  get?_updateSpace (·.deployments) i k (fun s => hg s.deployments) key

theorem function?_updateSpace_deployments (i : Index) (ns : String)
    (g : StringMap Deployment → StringMap Deployment) :
    (i.updateSpace ns fun s => { s with deployments := g s.deployments }).function? =
      i.function? := by
  funext key
  have h := field_updateSpace (·.functions) i ns
    (f := fun s => { s with deployments := g s.deployments }) (fun _ => rfl) key.ns
  exact congrArg (·.get? key.name) h

theorem deployment?_updateSpace_functions (i : Index) (ns : String)
    (g : StringMap FunctionObject → StringMap FunctionObject) :
    (i.updateSpace ns fun s => { s with functions := g s.functions }).deployment? =
      i.deployment? := by
  funext key
  have h := field_updateSpace (·.deployments) i ns
    (f := fun s => { s with functions := g s.functions }) (fun _ => rfl) key.ns
  exact congrArg (·.get? key.name) h

theorem space_enqueueOwner (i : Index) (d : Deployment) :
    (i.enqueueOwner d).1.space = i.space := by
  unfold enqueueOwner
  split
  · rfl
  · split
    · rfl
    · dsimp only
      split <;> rfl

theorem function?_enqueueOwner (i : Index) (d : Deployment) :
    (i.enqueueOwner d).1.function? = i.function? := by
  funext key
  rw [function?, space_enqueueOwner, function?]

theorem deployment?_enqueueOwner (i : Index) (d : Deployment) :
    (i.enqueueOwner d).1.deployment? = i.deployment? := by
  funext key
  rw [deployment?, space_enqueueOwner, deployment?]

/-! ## One change -/

theorem function?_applyFunction (f : FunctionObject) (i : Index) (key : ResourceKey) :
    (applyFunction f i).1.function? key =
      if f.metadata.key? = some key then some f else i.function? key := by
  unfold applyFunction
  cases f.metadata.key? with
  | none => rfl
  | some k =>
      have h := function?_updateSpace i k (·.insert k.name f)
        (fun m _ hne => m.get?_insert_of_ne hne f) key
      rw [StringMap.get?_insert_self] at h
      simp only [Option.some.injEq, eq_comm (a := k)]
      exact h

theorem deployment?_applyFunction (f : FunctionObject) (i : Index) :
    (applyFunction f i).1.deployment? = i.deployment? := by
  unfold applyFunction
  cases f.metadata.key? with
  | none => rfl
  | some k => exact deployment?_updateSpace_functions i k.ns (·.insert k.name f)

theorem function?_deleteFunction (k : ResourceKey) (i : Index) (key : ResourceKey) :
    (deleteFunction k i).1.function? key = if key = k then none else i.function? key := by
  have h := function?_updateSpace i k (·.erase k.name)
    (fun m _ hne => by rw [m.get?_erase, if_neg hne]) key
  rw [StringMap.get?_erase, if_pos rfl] at h
  exact h

theorem deployment?_deleteFunction (k : ResourceKey) (i : Index) :
    (deleteFunction k i).1.deployment? = i.deployment? :=
  deployment?_updateSpace_functions i k.ns (·.erase k.name)

theorem deployment?_applyDeployment (d : Deployment) (i : Index) (key : ResourceKey) :
    (applyDeployment d i).1.deployment? key =
      if d.metadata.key? = some key then some d else i.deployment? key := by
  unfold applyDeployment
  cases d.metadata.key? with
  | none => rfl
  | some k =>
      have h := deployment?_updateSpace i k (·.insert k.name d)
        (fun m _ hne => m.get?_insert_of_ne hne d) key
      rw [StringMap.get?_insert_self] at h
      simp only [Option.some.injEq, eq_comm (a := k)]
      split
      · exact h
      · rw [deployment?_enqueueOwner]
        exact h

theorem function?_applyDeployment (d : Deployment) (i : Index) :
    (applyDeployment d i).1.function? = i.function? := by
  unfold applyDeployment
  cases d.metadata.key? with
  | none => rfl
  | some k =>
      have h := function?_updateSpace_deployments i k.ns (·.insert k.name d)
      dsimp only
      split
      · exact h
      · rw [function?_enqueueOwner]
        exact h

theorem deployment?_deleteDeployment (k : ResourceKey) (i : Index) (key : ResourceKey) :
    (deleteDeployment k i).1.deployment? key = if key = k then none else i.deployment? key := by
  unfold deleteDeployment
  cases hk : i.deployment? k with
  | none =>
      show i.deployment? key = _
      split
      · rename_i h
        rw [h]
        exact hk
      · rfl
  | some d =>
      have h := deployment?_updateSpace i k (·.erase k.name)
        (fun m _ hne => by rw [m.get?_erase, if_neg hne]) key
      rw [StringMap.get?_erase, if_pos rfl] at h
      rw [deployment?_enqueueOwner]
      exact h

theorem function?_deleteDeployment (k : ResourceKey) (i : Index) :
    (deleteDeployment k i).1.function? = i.function? := by
  unfold deleteDeployment
  cases i.deployment? k with
  | none => rfl
  | some d =>
      rw [function?_enqueueOwner]
      exact function?_updateSpace_deployments i k.ns (·.erase k.name)

/-! ## Many changes -/

theorem each_induction {α : Type} {P : Routed → Prop} {step : α → Index → Routed} {xs : List α}
    {r : Routed} (h : P r)
    (hstep : ∀ x ∈ xs, ∀ i keys, P (i, keys) → P ((step x i).1, keys ++ (step x i).2)) :
    P (each step xs r) := by
  induction xs generalizing r with
  | nil => exact h
  | cons x xs ih =>
      obtain ⟨i, keys⟩ := r
      exact ih (hstep x List.mem_cons_self i keys h)
        fun x' hx' => hstep x' (List.mem_cons_of_mem x hx')

/-- The keys that are there already stay in front, and matter for nothing else. -/
theorem each_eq {α : Type} (step : α → Index → Routed) (xs : List α) (i : Index)
    (keys : List ResourceKey) :
    each step xs (i, keys) = ((each step xs (i, [])).1, keys ++ (each step xs (i, [])).2) := by
  induction xs generalizing i keys with
  | nil =>
      show (i, keys) = (i, keys ++ [])
      rw [List.append_nil]
  | cons x xs ih =>
      show each step xs ((step x i).1, keys ++ (step x i).2) =
        ((each step xs ((step x i).1, (step x i).2)).1,
          keys ++ (each step xs ((step x i).1, (step x i).2)).2)
      rw [ih _ (keys ++ (step x i).2), ih _ (step x i).2, List.append_assoc]

theorem each_append {α : Type} (step : α → Index → Routed) (xs ys : List α) (r : Routed) :
    each step (xs ++ ys) r = each step ys (each step xs r) := by
  induction xs generalizing r with
  | nil => rfl
  | cons x xs ih => exact ih _

theorem each_map {α β : Type} (step : β → Index → Routed) (g : α → β) (xs : List α) (r : Routed) :
    each step (xs.map g) r = each (fun x => step (g x)) xs r := by
  induction xs generalizing r with
  | nil => rfl
  | cons x xs ih => exact ih _

end Index

end FaasOperator
