/-
# `FaasOperator.Proofs.Index.Notify` — what a notification can do to the index

Whatever is held stays within what was held before and what the notification carries (`Holds`), and
a function that was not held before has its key enqueued (`Covers`): no version of a function gets
into the cache unnoticed.  In particular everything is cached under its own key, in every index that
notifications and resyncs lead to (`Reachable.holds`).
-/
import FaasOperator.Proofs.Index.Cache

namespace FaasOperator

/-- The functions that a notification carries. -/
def Notification.functions : Notification → List FunctionObject
  | .applyFunction f => [f]
  | .resetFunctions fs _ => fs
  | .deleteFunction _ | .applyDeployment _ | .deleteDeployment _ | .resetDeployments _ _ => []

/-- The Deployments that a notification carries. -/
def Notification.deployments : Notification → List Deployment
  | .applyDeployment d => [d]
  | .resetDeployments ds _ => ds
  | .applyFunction _ | .deleteFunction _ | .resetFunctions _ _ | .deleteDeployment _ => []

namespace Index

/-! ## What is held -/

section Holds

variable {F : ResourceKey → FunctionObject → Prop} {D : ResourceKey → Deployment → Prop}
  {i : Index}

/-- Whatever is held under a key has a property. -/
structure Holds (F : ResourceKey → FunctionObject → Prop) (D : ResourceKey → Deployment → Prop)
    (i : Index) : Prop where
  functions : ∀ key f, i.function? key = some f → F key f
  deployments : ∀ key d, i.deployment? key = some d → D key d

theorem holds_empty : Holds F D empty where
  functions := fun _ _ h => by cases h
  deployments := fun _ _ h => by cases h

theorem Holds.mono {F' : ResourceKey → FunctionObject → Prop} {D' : ResourceKey → Deployment → Prop}
    (h : Holds F D i) (hF : ∀ key f, F key f → F' key f) (hD : ∀ key d, D key d → D' key d) :
    Holds F' D' i where
  functions := fun key f hf => hF key f (h.functions key f hf)
  deployments := fun key d hd => hD key d (h.deployments key d hd)

theorem Holds.congr {j : Index} (h : Holds F D i) (hf : j.function? = i.function?)
    (hd : j.deployment? = i.deployment?) : Holds F D j where
  functions := hf ▸ h.functions
  deployments := hd ▸ h.deployments

theorem Holds.applyFunction (h : Holds F D i) {f : FunctionObject}
    (hf : ∀ key, f.metadata.key? = some key → F key f) :
    Holds F D (Index.applyFunction f i).1 where
  functions := by
    intro key g hg
    rw [function?_applyFunction] at hg
    split at hg
    · cases hg
      exact hf key ‹_›
    · exact h.functions key g hg
  deployments := deployment?_applyFunction f i ▸ h.deployments

theorem Holds.deleteFunction (h : Holds F D i) (k : ResourceKey) :
    Holds F D (Index.deleteFunction k i).1 where
  functions := by
    intro key g hg
    rw [function?_deleteFunction] at hg
    split at hg
    · cases hg
    · exact h.functions key g hg
  deployments := deployment?_deleteFunction k i ▸ h.deployments

theorem Holds.applyDeployment (h : Holds F D i) {d : Deployment}
    (hd : ∀ key, d.metadata.key? = some key → D key d) :
    Holds F D (Index.applyDeployment d i).1 where
  functions := function?_applyDeployment d i ▸ h.functions
  deployments := by
    intro key e he
    rw [deployment?_applyDeployment] at he
    split at he
    · cases he
      exact hd key ‹_›
    · exact h.deployments key e he

theorem Holds.deleteDeployment (h : Holds F D i) (k : ResourceKey) :
    Holds F D (Index.deleteDeployment k i).1 where
  functions := function?_deleteDeployment k i ▸ h.functions
  deployments := by
    intro key e he
    rw [deployment?_deleteDeployment] at he
    split at he
    · cases he
    · exact h.deployments key e he

theorem Holds.each {α : Type} {step : α → Index → Routed} {xs : List α} {r : Routed}
    (h : Holds F D r.1) (hstep : ∀ x ∈ xs, ∀ i, Holds F D i → Holds F D (step x i).1) :
    Holds F D (each step xs r).1 :=
  each_induction (P := fun r => Holds F D r.1) h fun x hx i _ hi => hstep x hx i hi

/-- What is held after a notification was held before or came with it, and has its property. -/
theorem Holds.notify (h : Holds F D i) {n : Notification}
    (hF : ∀ f ∈ n.functions, ∀ key, f.metadata.key? = some key → F key f)
    (hD : ∀ d ∈ n.deployments, ∀ key, d.metadata.key? = some key → D key d) :
    Holds F D (i.notify n).1 := by
  cases n with
  | applyFunction f => exact h.applyFunction (hF f List.mem_cons_self)
  | deleteFunction k => exact h.deleteFunction k
  | resetFunctions fs removed =>
      have happly : Holds F D (Index.each Index.applyFunction fs (i, [])).1 :=
        Holds.each (r := (i, [])) h fun f hf _ hi => hi.applyFunction (hF f hf)
      exact (happly.each fun k _ _ hi => hi.deleteFunction k).congr rfl rfl
  | applyDeployment d => exact h.applyDeployment (hD d List.mem_cons_self)
  | deleteDeployment k => exact h.deleteDeployment k
  | resetDeployments ds removed =>
      have happly : Holds F D (Index.each Index.applyDeployment ds (i, [])).1 :=
        Holds.each (r := (i, [])) h fun d hd _ hi => hi.applyDeployment (hD d hd)
      exact (happly.each fun k _ _ hi => hi.deleteDeployment k).congr rfl rfl

end Holds

/-! ## What is enqueued -/

/-- Every function that is held was held before, or its key is enqueued. -/
def Covers (i : Index) (r : Routed) : Prop :=
  ∀ key f, r.1.function? key = some f → key ∈ r.2 ∨ i.function? key = some f

theorem covers_of_function?_eq {i : Index} {r : Routed} (h : r.1.function? = i.function?) :
    i.Covers r := fun _ _ hf => .inr (h ▸ hf)

theorem covers_applyFunction (f : FunctionObject) (i : Index) : i.Covers (applyFunction f i) := by
  intro key g hg
  rw [function?_applyFunction] at hg
  split at hg
  · rename_i hkey
    have hkeys : (applyFunction f i).2 = [key] := by
      unfold applyFunction
      rw [hkey]
      rfl
    exact .inl (hkeys ▸ List.mem_cons_self)
  · exact .inr hg

theorem covers_deleteFunction (k : ResourceKey) (i : Index) : i.Covers (deleteFunction k i) := by
  intro key g hg
  rw [function?_deleteFunction] at hg
  split at hg
  · cases hg
  · exact .inr hg

theorem covers_each {α : Type} {step : α → Index → Routed}
    (hstep : ∀ x (i : Index), i.Covers (step x i)) {i : Index} {r : Routed} (h : i.Covers r)
    (xs : List α) : i.Covers (each step xs r) := by
  refine each_induction (P := i.Covers) h fun x _ j keys hj key f hf => ?_
  rcases hstep x j key f hf with hmem | hf
  · exact .inl (List.mem_append_right keys hmem)
  · exact (hj key f hf).imp (List.mem_append_left _) id

theorem covers_notify (n : Notification) (i : Index) : i.Covers (i.notify n) := by
  cases n with
  | applyFunction f => exact covers_applyFunction f i
  | deleteFunction k => exact covers_deleteFunction k i
  | resetFunctions fs removed =>
      have hself : i.Covers (i, []) := covers_of_function?_eq rfl
      exact covers_each covers_deleteFunction (covers_each covers_applyFunction hself fs) removed
  | applyDeployment d => exact covers_of_function?_eq (function?_applyDeployment d i)
  | deleteDeployment k => exact covers_of_function?_eq (function?_deleteDeployment k i)
  | resetDeployments ds removed =>
      have hself : i.Covers (i, []) := covers_of_function?_eq rfl
      have happly : i.Covers (each applyDeployment ds (i, [])) :=
        covers_each (fun d j => covers_of_function?_eq (function?_applyDeployment d j)) hself ds
      exact covers_each (fun k j => covers_of_function?_eq (function?_deleteDeployment k j)) happly
        removed

theorem covers_resync (i : Index) : i.Covers i.resync := covers_of_function?_eq rfl

theorem mem_resync {i : Index} {key : ResourceKey} {f : FunctionObject}
    (h : i.function? key = some f) : key ∈ i.resync.2 := by
  show key ∈ i.functionKeys
  unfold function? space at h
  cases hspace : i.namespaces.get? key.ns with
  | none =>
      rw [hspace] at h
      cases h
  | some space =>
      rw [hspace] at h
      have hentry : (key.ns, space) ∈ i.namespaces.entries :=
        (StringMap.mem_entries_iff _ _ _).mpr hspace
      have hname : (key.name, f) ∈ space.functions.entries :=
        (StringMap.mem_entries_iff _ _ _).mpr h
      refine List.mem_flatMap.mpr ⟨_, hentry, ?_⟩
      exact List.mem_map.mpr ⟨key.name, List.mem_map.mpr ⟨_, hname, rfl⟩, rfl⟩

theorem Holds.resync {F : ResourceKey → FunctionObject → Prop} {D : ResourceKey → Deployment → Prop}
    {i : Index} (h : Holds F D i) : Holds F D i.resync.1 :=
  h.congr rfl rfl

/-! ## One notification after the other -/

/-- Takes in notifications in this order. -/
def notifyAll (ns : List Notification) (i : Index) : Routed := each notify ns (i, [])

theorem notifyAll_cons (n : Notification) (ns : List Notification) (i : Index) :
    i.notifyAll (n :: ns) =
      (((i.notify n).1.notifyAll ns).1, (i.notify n).2 ++ ((i.notify n).1.notifyAll ns).2) :=
  each_eq notify ns (i.notify n).1 (i.notify n).2

/-! ## Reachable indexes -/

/-- What notifications and resyncs make of the empty index. -/
inductive Reachable : Index → Prop
  | empty : Reachable .empty
  | notify {i : Index} (n : Notification) : Reachable i → Reachable (i.notify n).1
  | resync {i : Index} : Reachable i → Reachable i.resync.1

theorem Reachable.holds {i : Index} (h : i.Reachable) :
    i.Holds (fun key f => f.metadata.key? = some key) (fun key d => d.metadata.key? = some key) := by
  induction h with
  | empty => exact holds_empty
  | notify n _ ih => exact ih.notify (fun _ _ _ hkey => hkey) fun _ _ _ hkey => hkey
  | resync _ ih => exact ih.resync

end Index

end FaasOperator
