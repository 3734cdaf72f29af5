/-
# `FaasOperator.Proofs.Index.Relist` — a new list of all objects of a kind

## What is proved

After a gap in what a watch reported comes a list of all objects of a kind, and the keys of those
that are gone (`Relists`).  It is taken in one object after the other, each against a cache that is
partly the old one.  What comes of it (`relist_repairs`):

* the cache of the kind is replaced by the objects of the list, and the other one is left alone;
* the kind counts as listed from then on, whatever follows;
* of functions, all that are in the list get dirty, and nobody else;
* of Deployments, just those cached functions get dirty that control one that is gone, by the state
  that was cached last, or one that is news;
* in which order those that are gone are walked makes no difference to any of this.

## Where it is not said

A Deployment that is listed without a name tells nobody (`nameless_listed_deployment_unrouted`).
-/
import FaasOperator.Proofs.Index.Batches
import FaasOperator.Proofs.Index.Moments

namespace FaasOperator

open Change

/-! ## Lists that replace a cache -/

section Relists

variable {α : Type} {metadata : α → ObjectMeta} {found : ResourceKey → Option α} {xs : List α}
  {removed removed' : List ResourceKey}

/-- No two objects of the list have the same key, and what is removed are the keys that something is
found under but no object of the list has, once each. -/
structure Relists (metadata : α → ObjectMeta) (found : ResourceKey → Option α) (xs : List α)
    (removed : List ResourceKey) : Prop where
  distinct : xs.Pairwise fun x y => ∀ key, (metadata x).Names key → ¬(metadata y).Names key
  removed_iff : ∀ key, key ∈ removed ↔
    (∃ a, found key = some a) ∧ ∀ x ∈ xs, ¬(metadata x).Names key
  nodup : removed.Nodup

theorem Relists.perm (h : Relists metadata found xs removed) (hperm : removed.Perm removed') :
    Relists metadata found xs removed' where
  distinct := h.distinct
  removed_iff := fun key => hperm.mem_iff.symm.trans (h.removed_iff key)
  nodup := hperm.nodup h.nodup

theorem Relists.apart (h : Relists metadata found xs removed) :
    (xs.map Change.apply ++ removed.map Change.delete).Pairwise (Change.Apart metadata) := by
  refine List.pairwise_append.mpr ⟨List.pairwise_map.mpr h.distinct, List.pairwise_map.mpr ?_, ?_⟩
  · refine h.nodup.imp fun hne key hkey hkey' => ?_
    exact hne (hkey.symm.trans hkey')
  · intro c hc c' hc' key hnames hkey
    obtain ⟨x, hx, rfl⟩ := List.mem_map.mp hc
    obtain ⟨k, hk, rfl⟩ := List.mem_map.mp hc'
    rw [← (hkey : key = k)] at hk
    exact ((h.removed_iff key).mp hk).2 x hx hnames

theorem Relists.found_iff (h : Relists metadata found xs removed) (key : ResourceKey) (a : α) :
    (xs.map Change.apply ++ removed.map Change.delete).foldl (onto metadata) found key = some a ↔
      a ∈ xs ∧ (metadata a).Names key := by
  rw [foldl_onto_iff h.apart]
  constructor
  · rintro (⟨hmem, hnames⟩ | ⟨ha, hnone⟩)
    · rcases List.mem_append.mp hmem with hmem | hmem
      · obtain ⟨x, hx, ⟨⟩⟩ := List.mem_map.mp hmem
        exact ⟨hx, hnames⟩
      · obtain ⟨k, -, ⟨⟩⟩ := List.mem_map.mp hmem
    · -- what was found and is not in the list is removed
      have hremoved : key ∈ removed := (h.removed_iff key).mpr ⟨⟨a, ha⟩, fun x hx hnames =>
        hnone _ (List.mem_append_left _ (List.mem_map_of_mem hx)) hnames⟩
      exact absurd rfl (hnone _ (List.mem_append_right _ (List.mem_map_of_mem hremoved)))
  · rintro ⟨hx, hnames⟩
    exact .inl ⟨List.mem_append_left _ (List.mem_map_of_mem hx), hnames⟩

end Relists

namespace Index

/-! ## Marks -/

/-- What may become of an index later. -/
inductive Later (i : Index) : Index → Prop
  | now : Later i i
  | notify {j : Index} (n : Notification) : Later i j → Later i (j.notify n).1
  | resync {j : Index} : Later i j → Later i j.resync.1

theorem Stable.later {P : Index → Prop} (h : Stable P) {i j : Index} (hj : i.Later j) (hi : P i) :
    P j := by
  induction hj with
  | now => exact hi
  | notify n _ ih => exact h.notify n ih
  | resync _ ih => exact h.resync ih

theorem stable_functionsSynced : Stable fun i => i.functionsSynced = true where
  counts := fun _ _ _ _ hi => hi
  functionsSynced := fun _ _ => rfl
  deploymentsSynced := fun _ hi => hi
  updateSpace := fun _ _ _ hi => hi

theorem stable_deploymentsSynced : Stable fun i => i.deploymentsSynced = true where
  counts := fun _ _ _ _ hi => hi
  functionsSynced := fun _ hi => hi
  deploymentsSynced := fun _ _ => rfl
  updateSpace := fun _ _ _ hi => hi

/-! ## Who is told -/

section Keys

variable {i : Index} {key : ResourceKey}

/-- A list of functions tells those that are in it, and none that are gone. -/
theorem mem_notify_resetFunctions_iff (hi : i.Reachable) (fs : List FunctionObject)
    (removed : List ResourceKey) :
    key ∈ (i.notify (.resetFunctions fs removed)).2 ↔ ∃ f ∈ fs, f.metadata.Names key := by
  -- no batch: functions are deleted.  But that a function is due does not depend on the index
  have hparts := map_snd_trail (Notification.resetFunctions fs removed).parts i
  rw [(notify_parts _ i).1, keys_trail, List.mem_flatMap]
  constructor
  · rintro ⟨⟨j, p⟩, hm, hkey⟩
    have hp : p ∈ (Notification.resetFunctions fs removed).parts :=
      hparts ▸ List.mem_map_of_mem hm
    have hdue := (mem_notify_iff (reachable_of_mem_trail hi hm)
      (Notification.isSingle_of_mem_parts hp) key).mp hkey
    rcases List.mem_append.mp hp with hp | hp
    · obtain ⟨f, hf, rfl⟩ := List.mem_map.mp hp
      exact ⟨f, hf, due_applyFunction_iff.mp hdue⟩
    · obtain ⟨k, -, rfl⟩ := List.mem_map.mp hp
      cases hdue
  · rintro ⟨f, hf, hnames⟩
    have hp : .applyFunction f ∈ (Notification.resetFunctions fs removed).parts :=
      List.mem_append_left _ (List.mem_map_of_mem hf)
    rw [← hparts] at hp
    obtain ⟨⟨j, p⟩, hm, rfl⟩ := List.mem_map.mp hp
    exact ⟨_, hm, (mem_notify_iff (reachable_of_mem_trail hi hm) rfl key).mpr (.function hnames)⟩

def ofDeploymentChange : Change Deployment → Notification
  | .apply d => .applyDeployment d
  | .delete k => .deleteDeployment k

theorem apart_ofDeploymentChange {c c' : Change Deployment}
    (h : c.Apart Deployment.metadata c') :
    (ofDeploymentChange c).Apart (ofDeploymentChange c') := by
  have hchange (c : Change Deployment) : (ofDeploymentChange c).deploymentChanges = [c] := by
    cases c <;> rfl
  constructor
  · intro x hx
    cases c <;> cases hx
  · intro x hx y hy
    rw [hchange, List.mem_singleton] at hx hy
    rw [hx, hy]
    exact h

/-- A list of Deployments tells the functions that control those that are gone, by the state that
was cached last, and those that are news. -/
theorem mem_notify_resetDeployments_iff (hi : i.Reachable) {ds : List Deployment}
    {removed : List ResourceKey} (h : Relists Deployment.metadata i.deployment? ds removed) :
    key ∈ (i.notify (.resetDeployments ds removed)).2 ↔
      (∃ k ∈ removed, ∃ d, i.deployment? k = some d ∧ i.Tells k d key) ∨
        ∃ d ∈ ds, ∃ k, d.metadata.Names k ∧ i.News k d ∧ i.Tells k d key := by
  have hparts : (Notification.resetDeployments ds removed).parts =
      (ds.map Change.apply ++ removed.map Change.delete).map ofDeploymentChange := by
    rw [List.map_append, List.map_map, List.map_map]
    rfl
  have hapart : (Notification.resetDeployments ds removed).parts.Pairwise Notification.Apart := by
    rw [hparts]
    exact List.pairwise_map.mpr (h.apart.imp apart_ofDeploymentChange)
  have hcounted : ∀ p ∈ (Notification.resetDeployments ds removed).parts, p.isCounted = true := by
    intro p hp
    rw [hparts] at hp
    obtain ⟨c, -, rfl⟩ := List.mem_map.mp hp
    cases c <;> rfl
  rw [(notify_parts _ i).1, mem_notifyAll_iff hi hcounted hapart]
  constructor
  · rintro ⟨p, hp, hdue⟩
    rcases List.mem_append.mp hp with hp | hp
    · obtain ⟨d, hd, rfl⟩ := List.mem_map.mp hp
      cases hdue with
      | applied hk hnews htells => exact .inr ⟨d, hd, _, hk, hnews, htells⟩
    · obtain ⟨k, hk, rfl⟩ := List.mem_map.mp hp
      cases hdue with
      | deleted hd htells => exact .inl ⟨k, hk, _, hd, htells⟩
  · rintro (⟨k, hk, d, hd, htells⟩ | ⟨d, hd, k, hk, hnews, htells⟩)
    · exact ⟨_, List.mem_append_right _ (List.mem_map_of_mem hk), .deleted hd htells⟩
    · exact ⟨_, List.mem_append_left _ (List.mem_map_of_mem hd), .applied hk hnews htells⟩

end Keys

/-! ## What comes of a list -/

section TakenIn

variable {α : Type} {metadata : α → ObjectMeta} {found : Index → ResourceKey → Option α}
  {synced : Index → Bool} {xs : List α} {due due' : ResourceKey → Prop} {q : WorkQueue ResourceKey}
  {r r' : Routed}

/-- The objects of the list that have a key are found and no others, the kind is marked as listed
for ever, and the keys that get dirty are those that are due. -/
structure TakenIn (metadata : α → ObjectMeta) (found : Index → ResourceKey → Option α)
    (synced : Index → Bool) (xs : List α) (due : ResourceKey → Prop) (q : WorkQueue ResourceKey)
    (r : Routed) : Prop where
  found_iff : ∀ key a, found r.1 key = some a ↔ a ∈ xs ∧ (metadata a).Names key
  synced : ∀ j, r.1.Later j → synced j = true
  dirty_iff : ∀ key, key ∈ (q.addAll r.2).dirty ↔ key ∈ q.dirty ∨ due key

structure SameOutcome (q : WorkQueue ResourceKey) (r r' : Routed) : Prop where
  namespaces : r'.1.namespaces = r.1.namespaces
  dirty_iff : ∀ key, key ∈ (q.addAll r'.2).dirty ↔ key ∈ (q.addAll r.2).dirty

theorem TakenIn.found_eq (h : TakenIn metadata found synced xs due q r)
    (h' : TakenIn metadata found synced xs due' q r') : found r'.1 = found r.1 := by
  funext key
  apply Option.ext
  intro a
  rw [h'.found_iff, h.found_iff]

theorem TakenIn.dirty_congr (h : TakenIn metadata found synced xs due q r)
    (h' : TakenIn metadata found synced xs due' q r') (hdue : ∀ key, due' key ↔ due key)
    (key : ResourceKey) : key ∈ (q.addAll r'.2).dirty ↔ key ∈ (q.addAll r.2).dirty := by
  rw [h'.dirty_iff, h.dirty_iff, hdue]

end TakenIn

section Repair

variable {i : Index} {q : WorkQueue ResourceKey}

theorem takenIn_resetFunctions (hi : i.Reachable) (hopen : q.closed = false)
    {fs : List FunctionObject} {removed : List ResourceKey}
    (h : Relists FunctionObject.metadata i.function? fs removed) :
    TakenIn FunctionObject.metadata function? functionsSynced fs
      (fun key => ∃ f ∈ fs, f.metadata.Names key) q (i.notify (.resetFunctions fs removed)) where
  found_iff := by
    rw [function?_notify]
    exact h.found_iff
  synced := fun _ hj => stable_functionsSynced.later hj rfl
  dirty_iff := fun key => by
    rw [WorkQueue.mem_dirty_addAll hopen, mem_notify_resetFunctions_iff hi]

theorem takenIn_resetDeployments (hi : i.Reachable) (hopen : q.closed = false)
    {ds : List Deployment} {removed : List ResourceKey}
    (h : Relists Deployment.metadata i.deployment? ds removed) :
    TakenIn Deployment.metadata deployment? deploymentsSynced ds
      (fun key => (∃ k ∈ removed, ∃ d, i.deployment? k = some d ∧ i.Tells k d key) ∨
        ∃ d ∈ ds, ∃ k, d.metadata.Names k ∧ i.News k d ∧ i.Tells k d key)
      q (i.notify (.resetDeployments ds removed)) where
  found_iff := by
    rw [deployment?_notify]
    exact h.found_iff
  synced := fun _ hj => stable_deploymentsSynced.later hj rfl
  dirty_iff := fun key => by
    rw [WorkQueue.mem_dirty_addAll hopen, mem_notify_resetDeployments_iff hi h]

/-- A new list of a kind repairs whatever the watch has missed.  The kind's cache is replaced by the
objects of the list, the other one is left alone, and the kind counts as listed for ever.  Of
functions, all that are in the list get dirty, and nobody else; of Deployments, the cached functions
that control one that is gone or is news.  In which order the Deployments or functions that are gone
are walked makes no difference. -/
theorem relist_repairs (hi : i.Reachable) (hopen : q.closed = false) :
    (∀ (fs : List FunctionObject) (removed : List ResourceKey),
      Relists FunctionObject.metadata i.function? fs removed →
      TakenIn FunctionObject.metadata function? functionsSynced fs
        (fun key => ∃ f ∈ fs, f.metadata.Names key) q (i.notify (.resetFunctions fs removed)) ∧
      (i.notify (.resetFunctions fs removed)).1.deployment? = i.deployment? ∧
      ∀ removed', removed.Perm removed' →
        SameOutcome q (i.notify (.resetFunctions fs removed))
          (i.notify (.resetFunctions fs removed'))) ∧
    ∀ (ds : List Deployment) (removed : List ResourceKey),
      Relists Deployment.metadata i.deployment? ds removed →
      TakenIn Deployment.metadata deployment? deploymentsSynced ds
        (fun key => (∃ k ∈ removed, ∃ d, i.deployment? k = some d ∧ i.Tells k d key) ∨
          ∃ d ∈ ds, ∃ k, d.metadata.Names k ∧ i.News k d ∧ i.Tells k d key)
        q (i.notify (.resetDeployments ds removed)) ∧
      (i.notify (.resetDeployments ds removed)).1.function? = i.function? ∧
      ∀ removed', removed.Perm removed' →
        SameOutcome q (i.notify (.resetDeployments ds removed))
          (i.notify (.resetDeployments ds removed')) := by
  have hdeployments (fs : List FunctionObject) (removed : List ResourceKey) :
      (i.notify (.resetFunctions fs removed)).1.deployment? = i.deployment? :=
    deployment?_notify (.resetFunctions fs removed) i
  have hfunctions (ds : List Deployment) (removed : List ResourceKey) :
      (i.notify (.resetDeployments ds removed)).1.function? = i.function? :=
    function?_notify (.resetDeployments ds removed) i
  constructor
  · intro fs removed h
    have htaken := takenIn_resetFunctions hi hopen h
    refine ⟨htaken, hdeployments fs removed, fun removed' hperm => ?_⟩
    have htaken' := takenIn_resetFunctions hi hopen (h.perm hperm)
    constructor
    · refine (hi.notify _).tidy.namespaces_eq (hi.notify _).tidy (htaken.found_eq htaken') ?_
      rw [hdeployments, hdeployments]
    · exact htaken.dirty_congr htaken' fun _ => Iff.rfl
  · intro ds removed h
    have htaken := takenIn_resetDeployments hi hopen h
    refine ⟨htaken, hfunctions ds removed, fun removed' hperm => ?_⟩
    have htaken' := takenIn_resetDeployments hi hopen (h.perm hperm)
    constructor
    · refine (hi.notify _).tidy.namespaces_eq (hi.notify _).tidy ?_ (htaken.found_eq htaken')
      rw [hfunctions, hfunctions]
    · refine htaken.dirty_congr htaken' fun key => or_congr_left ?_
      simp only [hperm.mem_iff]

end Repair

theorem relists_gone {α : Type} {metadata : α → ObjectMeta} {found : ResourceKey → Option α}
    {k : ResourceKey} (h : ∀ key, (∃ a, found key = some a) ↔ key = k) :
    Relists metadata found [] [k] where
  distinct := .nil
  removed_iff := fun key => by
    rw [List.mem_singleton, h]
    simp
  nodup := List.nodup_singleton k

theorem relist_repairs_gone :
    (cachedBoth FunctionObject.kind).Reachable ∧
    (WorkQueue.empty (κ := ResourceKey)).closed = false ∧
    Relists FunctionObject.metadata (cachedBoth FunctionObject.kind).function? [] [sharedKey] ∧
    Relists Deployment.metadata (cachedBoth FunctionObject.kind).deployment? [] [sharedKey] ∧
    sharedKey ∉ (WorkQueue.empty.addAll
      ((cachedBoth FunctionObject.kind).notify (.resetFunctions [] [sharedKey])).2).dirty ∧
    sharedKey ∈ (WorkQueue.empty.addAll
      ((cachedBoth FunctionObject.kind).notify (.resetDeployments [] [sharedKey])).2).dirty := by
  have hkey : namedFunction.metadata.key? = some sharedKey := by decide
  have hkey' : (controlledDeployment FunctionObject.kind).metadata.key? = some sharedKey := by
    decide
  have hnone (key : ResourceKey) : Index.empty.function? key = none := rfl
  have hnone' (key : ResourceKey) : Index.empty.deployment? key = none := rfl
  have hfunctions : Relists FunctionObject.metadata (cachedBoth FunctionObject.kind).function? []
      [sharedKey] := by
    refine relists_gone fun key => ?_
    simp [cachedBoth, notify, function?_applyDeployment, function?_applyFunction, hkey, hnone,
      eq_comm]
  have hdeployments : Relists Deployment.metadata (cachedBoth FunctionObject.kind).deployment? []
      [sharedKey] := by
    refine relists_gone fun key => ?_
    simp [cachedBoth, notify, deployment?_applyDeployment, deployment?_applyFunction, hkey', hnone',
      eq_comm]
  obtain ⟨hf, hd⟩ := relist_repairs (reachable_cachedBoth FunctionObject.kind) (q := .empty) rfl
  refine ⟨reachable_cachedBoth _, rfl, hfunctions, hdeployments, ?_, ?_⟩
  · rw [(hf [] [sharedKey] hfunctions).1.dirty_iff]
    simp [WorkQueue.empty]
  · rw [(hd [] [sharedKey] hdeployments).1.dirty_iff]
    exact .inr (.inl ⟨sharedKey, List.mem_cons_self, controlledDeployment FunctionObject.kind,
      by decide, rfl, ⟨_, rfl, rfl, rfl⟩, namedFunction, by decide⟩)

def unversionedDeployment : Deployment :=
  { Deployment.empty with
    metadata := { (controlledDeployment FunctionObject.kind).metadata with
      name := none
      resourceVersion := none } }

/-- A Deployment that is listed without a name tells nobody, whatever function it names. -/
theorem nameless_listed_deployment_unrouted :
    ¬∀ (i : Index) (q : WorkQueue ResourceKey) (ds : List Deployment) (removed : List ResourceKey)
      (key : ResourceKey), i.Reachable → q.closed = false →
      Relists Deployment.metadata i.deployment? ds removed →
      (key ∈ (q.addAll (i.notify (.resetDeployments ds removed)).2).dirty ↔
        key ∈ q.dirty ∨ ((∃ f, i.function? key = some f) ∧
          ((∃ k ∈ removed, ∃ d, i.deployment? k = some d ∧ key.ns = k.ns ∧ d.NamesOwner key.name) ∨
            ∃ d ∈ ds, d.metadata.ns = some key.ns ∧ d.NamesOwner key.name ∧
              (d.metadata.resourceVersion = none ∨ ∀ k, d.metadata.Names k → i.News k d)))) := by
  intro h
  have hrelists :
      Relists Deployment.metadata namedIndex.deployment? [unversionedDeployment] [] := by
    refine ⟨List.pairwise_singleton _ _, fun key => ?_, List.nodup_nil⟩
    have hnone : namedIndex.deployment? key = none := by
      show (applyFunction namedFunction empty).1.deployment? key = none
      rw [deployment?_applyFunction]
      rfl
    simp [hnone]
  have hdirty := (h namedIndex .empty _ [] sharedKey reachable_namedIndex rfl hrelists).mpr
    (.inr ⟨⟨namedFunction, rfl⟩, .inr ⟨unversionedDeployment, List.mem_cons_self, rfl,
      ⟨_, rfl, rfl, rfl⟩, .inl rfl⟩⟩)
  have hkeys : (namedIndex.notify (.resetDeployments [unversionedDeployment] [])).2 = [] := rfl
  rw [hkeys] at hdirty
  cases hdirty

end Index

end FaasOperator
