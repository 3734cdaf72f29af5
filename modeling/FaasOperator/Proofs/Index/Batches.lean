/-
# `FaasOperator.Proofs.Index.Batches` — the order of a batch of changes does not matter

## What is proved

Let `b'` be any order of a batch `b` of changes to different objects, each an applied object of
either kind or a deleted Deployment.  Taken in by one reachable index (`batch_order_immaterial`):

* the same objects are held after `b` and after `b'`, and the gauges tell the same;
* the same keys are dirty, namely those that are due by the index before the batch.

So nothing depends on whether a Deployment comes before the function that controls it or after.

## How

No change has a say in what is found of the object of another one (`foldl_onto_iff`), nor in whether
another one is due (`Due.notify`), unless it brings the function that is to be told; but then that
function is told of itself (`due_of_notify`).

Deletions of functions are left out: whether the owner of a Deployment is told does depend on
whether the function goes before or after.
-/
import FaasOperator.Proofs.Index.Routing

namespace FaasOperator

/-! ## Changes to different objects -/

namespace Change

variable {α : Type} {metadata : α → ObjectMeta} {cs cs' : List (Change α)} {key : ResourceKey}

/-- There is no object that both changes are to. -/
def Apart (metadata : α → ObjectMeta) (c c' : Change α) : Prop :=
  ∀ key, c.Touches metadata key → ¬c'.Touches metadata key

theorem foldl_onto_of_not_touches (h : ∀ c ∈ cs, ¬c.Touches metadata key)
    (found : ResourceKey → Option α) : cs.foldl (onto metadata) found key = found key := by
  induction cs generalizing found with
  | nil => rfl
  | cons c cs ih =>
      have hcs : ∀ c' ∈ cs, ¬c'.Touches metadata key := fun c' hc' =>
        h c' (List.mem_cons_of_mem c hc')
      rw [List.foldl_cons, ih hcs, onto_of_not_touches (h c List.mem_cons_self)]

/-- Changes to different objects leave each of these as its one change does, and all others as they
were. -/
theorem foldl_onto_iff (h : cs.Pairwise (Apart metadata)) (found : ResourceKey → Option α) {a : α} :
    cs.foldl (onto metadata) found key = some a ↔
      (.apply a ∈ cs ∧ (metadata a).Names key) ∨
        (found key = some a ∧ ∀ c ∈ cs, ¬c.Touches metadata key) := by
  induction cs generalizing found with
  | nil => simp
  | cons c cs ih =>
      have ⟨hc, hcs⟩ := List.pairwise_cons.mp h
      rw [List.foldl_cons]
      by_cases htouches : c.Touches metadata key
      · -- the first change decides, since no other one is to this object
        have hrest : ∀ c' ∈ cs, ¬c'.Touches metadata key := fun c' hc' => hc c' hc' key htouches
        rw [foldl_onto_of_not_touches hrest, onto_of_touches htouches]
        constructor
        · rintro rfl
          exact .inl ⟨List.mem_cons_self, htouches⟩
        · rintro (⟨hmem, hnames⟩ | ⟨-, hnone⟩)
          · rcases List.mem_cons.mp hmem with heq | hmem
            · exact heq.symm
            · exact absurd hnames (hrest _ hmem)
          · exact absurd htouches (hnone c List.mem_cons_self)
      · rw [ih hcs, onto_of_not_touches htouches, List.forall_mem_cons, and_iff_right htouches,
          List.mem_cons]
        refine or_congr_left (and_congr_left fun hnames => ?_)
        constructor
        · exact .inr
        · rintro (rfl | hmem)
          · exact absurd hnames htouches
          · exact hmem

theorem foldl_onto_perm (hperm : cs.Perm cs') (h : cs.Pairwise (Apart metadata))
    (h' : cs'.Pairwise (Apart metadata)) (found : ResourceKey → Option α) :
    cs.foldl (onto metadata) found = cs'.foldl (onto metadata) found := by
  funext key
  apply Option.ext
  intro a
  rw [foldl_onto_iff h, foldl_onto_iff h']
  simp only [hperm.mem_iff]

end Change

/-! ## Notifications about different objects -/

namespace Notification

/-- There is no object that both notifications are about. -/
structure Apart (m n : Notification) : Prop where
  functions : ∀ c ∈ m.functionChanges, ∀ c' ∈ n.functionChanges,
    c.Apart FunctionObject.metadata c'
  deployments : ∀ c ∈ m.deploymentChanges, ∀ c' ∈ n.deploymentChanges,
    c.Apart Deployment.metadata c'

theorem Apart.symm {m n : Notification} (h : m.Apart n) : n.Apart m where
  functions := fun c hc c' hc' key htouches htouches' =>
    h.functions c' hc' c hc key htouches' htouches
  deployments := fun c hc c' hc' key htouches htouches' =>
    h.deployments c' hc' c hc key htouches' htouches

variable {b : List Notification}

theorem pairwise_functionChanges (hsingle : ∀ n ∈ b, n.isSingle = true)
    (hapart : b.Pairwise Apart) :
    (b.flatMap functionChanges).Pairwise (Change.Apart FunctionObject.metadata) := by
  refine List.pairwise_flatMap.mpr ⟨fun n hn => ?_, hapart.imp (·.functions)⟩
  have h := hsingle n hn
  cases n with
  | applyFunction _ | deleteFunction _ => exact List.pairwise_singleton _ _
  | applyDeployment _ | deleteDeployment _ => exact List.Pairwise.nil
  | resetFunctions _ _ | resetDeployments _ _ => cases h

theorem pairwise_deploymentChanges (hsingle : ∀ n ∈ b, n.isSingle = true)
    (hapart : b.Pairwise Apart) :
    (b.flatMap deploymentChanges).Pairwise (Change.Apart Deployment.metadata) := by
  refine List.pairwise_flatMap.mpr ⟨fun n hn => ?_, hapart.imp (·.deployments)⟩
  have h := hsingle n hn
  cases n with
  | applyFunction _ | deleteFunction _ => exact List.Pairwise.nil
  | applyDeployment _ | deleteDeployment _ => exact List.pairwise_singleton _ _
  | resetFunctions _ _ | resetDeployments _ _ => cases h

def AppliesIn (n : Notification) (ns : String) : Prop :=
  (∃ f ∈ n.functions, ∃ k, f.metadata.key? = some k ∧ ns = k.ns) ∨
    ∃ d ∈ n.deployments, ∃ k, d.metadata.key? = some k ∧ ns = k.ns

theorem appliesIn_applyFunction_iff {f : FunctionObject} {ns : String} :
    (applyFunction f).AppliesIn ns ↔ ∃ k, f.metadata.key? = some k ∧ ns = k.ns := by
  simp [AppliesIn, functions, deployments]

theorem appliesIn_applyDeployment_iff {d : Deployment} {ns : String} :
    (applyDeployment d).AppliesIn ns ↔ ∃ k, d.metadata.key? = some k ∧ ns = k.ns := by
  simp [AppliesIn, functions, deployments]

theorem not_appliesIn_deleteDeployment {k : ResourceKey} {ns : String} :
    ¬(deleteDeployment k).AppliesIn ns := by
  simp [AppliesIn, functions, deployments]

end Notification

namespace Index

open Change

/-! ## What a batch leaves in the cache -/

section Found

variable {α : Type} {metadata : α → ObjectMeta} {found : Index → ResourceKey → Option α}
  {changes : Notification → List (Change α)} {b b' : List Notification}

theorem found_notifyAll
    (hstep : ∀ n i, found (i.notify n).1 = (changes n).foldl (onto metadata) (found i))
    (ns : List Notification) (i : Index) :
    found (i.notifyAll ns).1 = (ns.flatMap changes).foldl (onto metadata) (found i) := by
  induction ns generalizing i with
  | nil => rfl
  | cons n ns ih => rw [notifyAll_cons, ih, hstep, List.flatMap_cons, List.foldl_append]

theorem found_perm
    (hstep : ∀ n i, found (i.notify n).1 = (changes n).foldl (onto metadata) (found i))
    (h : (b.flatMap changes).Pairwise (Change.Apart metadata))
    (h' : (b'.flatMap changes).Pairwise (Change.Apart metadata)) (hperm : b.Perm b') (i : Index) :
    found (i.notifyAll b).1 = found (i.notifyAll b').1 := by
  rw [found_notifyAll hstep, found_notifyAll hstep]
  exact foldl_onto_perm (hperm.flatMap_right changes) h h' (found i)

end Found

/-! ## What a batch leaves in the queue -/

section Due

variable {i : Index} {m n : Notification} {key k : ResourceKey}

theorem exists_function?_notify (hn : n.isCounted = true) (h : ∃ f, i.function? key = some f) :
    ∃ f, (i.notify n).1.function? key = some f := by
  rw [function?_notify]
  cases n with
  | applyFunction f =>
      show ∃ f', (if f.metadata.key? = some key then some f else i.function? key) = some f'
      split
      · exact ⟨f, rfl⟩
      · exact h
  | applyDeployment _ | deleteDeployment _ => exact h
  | deleteFunction _ | resetFunctions _ _ | resetDeployments _ _ => cases hn

theorem Tells.notify {d : Deployment} (h : i.Tells k d key) (hn : n.isCounted = true) :
    (i.notify n).1.Tells k d key :=
  ⟨h.1, h.2.1, exists_function?_notify hn h.2.2⟩

theorem Tells.of_notify {d : Deployment} (h : (i.notify n).1.Tells k d key) :
    i.Tells k d key ∨ key ∈ (i.notify n).2 := by
  obtain ⟨hns, howner, f, hf⟩ := h
  rcases covers_notify n i key f hf with hmem | hf
  · exact .inr hmem
  · exact .inl ⟨hns, howner, f, hf⟩

theorem news_notify_iff {d : Deployment}
    (h : (i.notify n).1.deployment? k = i.deployment? k) :
    (i.notify n).1.News k d ↔ i.News k d := by
  unfold News
  rw [h]

theorem deployment?_notify_of_apart (hapart : n.Apart m) {c : Change Deployment}
    (hc : c ∈ m.deploymentChanges) (htouches : c.Touches Deployment.metadata k) :
    (i.notify n).1.deployment? k = i.deployment? k := by
  rw [deployment?_notify]
  exact foldl_onto_of_not_touches
    (fun c' hc' htouches' => hapart.deployments c' hc' c hc k htouches' htouches) _

theorem Due.notify (h : i.Due m key) (hapart : n.Apart m) (hn : n.isCounted = true) :
    (i.notify n).1.Due m key := by
  cases h with
  | function hkey => exact .function hkey
  | applied hk hnews htells =>
      have hsame := deployment?_notify_of_apart (i := i) hapart List.mem_cons_self hk
      exact .applied hk ((news_notify_iff hsame).mpr hnews) (htells.notify hn)
  | deleted hd htells =>
      have hsame := deployment?_notify_of_apart (i := i) hapart List.mem_cons_self rfl
      exact .deleted (hsame.trans hd) (htells.notify hn)

theorem due_of_notify (h : (i.notify n).1.Due m key) (hapart : n.Apart m) :
    i.Due m key ∨ key ∈ (i.notify n).2 := by
  cases h with
  | function hkey => exact .inl (.function hkey)
  | applied hk hnews htells =>
      have hsame := deployment?_notify_of_apart (i := i) hapart List.mem_cons_self hk
      exact htells.of_notify.imp_left (.applied hk ((news_notify_iff hsame).mp hnews))
  | deleted hd htells =>
      have hsame := deployment?_notify_of_apart (i := i) hapart List.mem_cons_self rfl
      exact htells.of_notify.imp_left (.deleted (hsame.symm.trans hd))

end Due

/-- The keys that a batch enqueues are those that are due before any of it is taken in. -/
theorem mem_notifyAll_iff {b : List Notification} {i : Index} (hi : i.Reachable)
    (hcounted : ∀ n ∈ b, n.isCounted = true) (hapart : b.Pairwise Notification.Apart)
    (key : ResourceKey) : key ∈ (i.notifyAll b).2 ↔ ∃ n ∈ b, i.Due n key := by
  -- on the batch, for every index: the rest of it finds the index as the first change leaves it
  induction b generalizing i with
  | nil =>
      constructor
      · intro hmem
        cases hmem
      · rintro ⟨n, hn, -⟩
        cases hn
  | cons n b ih =>
      have ⟨hn, hb⟩ := List.forall_mem_cons.mp hcounted
      have ⟨hfirst, hrest⟩ := List.pairwise_cons.mp hapart
      have hkeys : key ∈ (i.notify n).2 ↔ i.Due n key :=
        mem_notify_iff hi (Notification.isSingle_of_isCounted hn) key
      rw [notifyAll_cons, List.mem_append, ih (hi.notify n) hb hrest, hkeys,
        List.exists_mem_cons_iff]
      constructor
      · rintro (hdue | ⟨m, hm, hdue⟩)
        · exact .inl hdue
        · rcases due_of_notify hdue (hfirst m hm) with hdue | hmem
          · exact .inr ⟨m, hm, hdue⟩
          · exact .inl (hkeys.mp hmem)
      · rintro (hdue | ⟨m, hm, hdue⟩)
        · exact .inl hdue
        · exact .inr ⟨m, hm, hdue.notify (hfirst m hm) hn⟩

/-! ## What a batch leaves in the gauges -/

theorem contains_deployments_updateSpace (i : Index) (ns : String)
    (f : NamespaceIndex → NamespaceIndex) (ns' : String) :
    (i.updateSpace ns f).metrics.deployments.contains ns' = true ↔
      i.metrics.deployments.contains ns' = true ∨ ns' = ns :=
  i.metrics.deployments.contains_set ns ns' _

theorem sameContent_enqueueOwner (i : Index) (d : Deployment) :
    i.SameContent (i.enqueueOwner d).1 := by
  unfold enqueueOwner
  split
  · exact ⟨rfl, rfl, rfl⟩
  · split
    · exact ⟨rfl, rfl, rfl⟩
    · dsimp only
      split <;> exact ⟨rfl, rfl, rfl⟩

theorem sameContent_applyFunction {f : FunctionObject} {k : ResourceKey}
    (hk : f.metadata.key? = some k) (i : Index) :
    (i.updateSpace k.ns fun s =>
      { s with functions := s.functions.insert k.name f }).SameContent (applyFunction f i).1 := by
  unfold applyFunction
  simp only [hk]
  exact ⟨rfl, rfl, rfl⟩

theorem sameContent_applyDeployment {d : Deployment} {k : ResourceKey}
    (hk : d.metadata.key? = some k) (i : Index) :
    (i.updateSpace k.ns fun s =>
      { s with deployments := s.deployments.insert k.name d }).SameContent
        (applyDeployment d i).1 := by
  unfold applyDeployment
  simp only [hk]
  split
  · exact ⟨rfl, rfl, rfl⟩
  · exact sameContent_enqueueOwner _ d

/-- A change gets a namespace into the gauges that it applies an object of; one of which a
Deployment is deleted is there already. -/
theorem contains_notify_iff {i : Index} (hi : i.Tidy) {n : Notification} (hn : n.isCounted = true)
    (ns : String) :
    (i.notify n).1.metrics.deployments.contains ns = true ↔
      i.metrics.deployments.contains ns = true ∨ n.AppliesIn ns := by
  cases n with
  | applyFunction f =>
      show (applyFunction f i).1.metrics.deployments.contains ns = true ↔ _
      rw [Notification.appliesIn_applyFunction_iff]
      cases hk : f.metadata.key? with
      | none => simp [applyFunction, hk, ignore, IndexMetrics.ignore]
      | some k =>
          rw [(sameContent_applyFunction hk i).deployments, contains_deployments_updateSpace]
          simp
  | applyDeployment d =>
      show (applyDeployment d i).1.metrics.deployments.contains ns = true ↔ _
      rw [Notification.appliesIn_applyDeployment_iff]
      cases hk : d.metadata.key? with
      | none => simp [applyDeployment, hk, ignore, IndexMetrics.ignore]
      | some k =>
          rw [(sameContent_applyDeployment hk i).deployments, contains_deployments_updateSpace]
          simp
  | deleteDeployment k =>
      show (deleteDeployment k i).1.metrics.deployments.contains ns = true ↔ _
      rw [or_iff_left Notification.not_appliesIn_deleteDeployment]
      unfold deleteDeployment
      cases hd : i.deployment? k with
      | none => rfl
      | some d =>
          -- the gauge is set, but it was there for the sake of the Deployment that goes
          rw [(sameContent_enqueueOwner _ d).deployments, contains_deployments_updateSpace,
            or_iff_left_of_imp]
          rintro rfl
          exact hi.contains_of_deployment? hd
  | deleteFunction _ | resetFunctions _ _ | resetDeployments _ _ => cases hn

theorem contains_notifyAll_iff {b : List Notification} {i : Index} (hi : i.Tidy)
    (hcounted : ∀ n ∈ b, n.isCounted = true) (ns : String) :
    (i.notifyAll b).1.metrics.deployments.contains ns = true ↔
      i.metrics.deployments.contains ns = true ∨ ∃ n ∈ b, n.AppliesIn ns := by
  induction b generalizing i with
  | nil => simp [notifyAll, each]
  | cons n b ih =>
      have ⟨hn, hb⟩ := List.forall_mem_cons.mp hcounted
      rw [notifyAll_cons, ih (stable_tidy.notify n hi) hb, contains_notify_iff hi hn,
        List.exists_mem_cons_iff, or_assoc]

theorem Reachable.notifyAll {i : Index} (hi : i.Reachable) (ns : List Notification) :
    (i.notifyAll ns).1.Reachable := by
  induction ns generalizing i with
  | nil => exact hi
  | cons n ns ih =>
      rw [notifyAll_cons]
      exact ih (hi.notify n)

/-! ## Any order -/

section Order

variable {i : Index} {b b' : List Notification}

theorem sameContent_of_perm (hi : i.Reachable) (hcounted : ∀ n ∈ b, n.isCounted = true)
    (hcounted' : ∀ n ∈ b', n.isCounted = true) (hapart : b.Pairwise Notification.Apart)
    (hapart' : b'.Pairwise Notification.Apart) (hperm : b.Perm b') :
    (i.notifyAll b).1.SameContent (i.notifyAll b').1 := by
  have hsingle : ∀ n ∈ b, n.isSingle = true := fun n hn =>
    Notification.isSingle_of_isCounted (hcounted n hn)
  have hsingle' : ∀ n ∈ b', n.isSingle = true := fun n hn =>
    Notification.isSingle_of_isCounted (hcounted' n hn)
  refine (hi.notifyAll b).sameContent (hi.notifyAll b') ?_ ?_ fun ns => ?_
  · exact found_perm function?_notify (Notification.pairwise_functionChanges hsingle hapart)
      (Notification.pairwise_functionChanges hsingle' hapart') hperm i
  · exact found_perm deployment?_notify (Notification.pairwise_deploymentChanges hsingle hapart)
      (Notification.pairwise_deploymentChanges hsingle' hapart') hperm i
  · rw [Bool.eq_iff_iff, contains_notifyAll_iff hi.tidy hcounted,
      contains_notifyAll_iff hi.tidy hcounted']
    simp only [hperm.mem_iff]

/-- In whatever order a batch of changes to different objects is taken in, no function being
deleted, the same objects are held in the end, the gauges tell the same, and the same keys are
dirty, namely those that are due by the index before the batch. Nothing of this depends on whether a
Deployment comes before the function that controls it or after. -/
theorem batch_order_immaterial (hi : i.Reachable) (hcounted : ∀ n ∈ b, n.isCounted = true)
    (hapart : b.Pairwise Notification.Apart) (hperm : b.Perm b') {q : WorkQueue ResourceKey}
    (hopen : q.closed = false) :
    (i.notifyAll b).1.SameContent (i.notifyAll b').1 ∧
    (∀ key, key ∈ (q.addAll (i.notifyAll b).2).dirty ↔
      key ∈ q.dirty ∨ ∃ n ∈ b, i.Due n key) ∧
    ∀ key, key ∈ (q.addAll (i.notifyAll b').2).dirty ↔
      key ∈ (q.addAll (i.notifyAll b).2).dirty := by
  have hcounted' : ∀ n ∈ b', n.isCounted = true := fun n hn => hcounted n (hperm.mem_iff.mpr hn)
  have hapart' : b'.Pairwise Notification.Apart := (hperm.pairwise_iff .symm).mp hapart
  refine ⟨sameContent_of_perm hi hcounted hcounted' hapart hapart' hperm, ?_, ?_⟩
  · intro key
    rw [WorkQueue.mem_dirty_addAll hopen, mem_notifyAll_iff hi hcounted hapart]
  · intro key
    rw [WorkQueue.mem_dirty_addAll hopen, WorkQueue.mem_dirty_addAll hopen,
      mem_notifyAll_iff hi hcounted hapart, mem_notifyAll_iff hi hcounted' hapart']
    simp only [hperm.mem_iff]

end Order

def ownerLast : List Notification :=
  [.applyDeployment (controlledDeployment FunctionObject.kind), .applyFunction namedFunction]

theorem batch_order_immaterial_owner_last :
    Index.empty.Reachable ∧ (∀ n ∈ ownerLast, n.isCounted = true) ∧
    ownerLast.Pairwise Notification.Apart ∧ ownerLast.Perm ownerLast.reverse ∧
    (WorkQueue.empty (κ := ResourceKey)).closed = false ∧
    (Index.empty.notifyAll ownerLast).1.SameContent (Index.empty.notifyAll ownerLast.reverse).1 ∧
    sharedKey ∈ (WorkQueue.empty.addAll (Index.empty.notifyAll ownerLast).2).dirty ∧
    sharedKey ∈ (WorkQueue.empty.addAll (Index.empty.notifyAll ownerLast.reverse).2).dirty := by
  have hcounted : ∀ n ∈ ownerLast, n.isCounted = true := by decide
  have hapart : ownerLast.Pairwise Notification.Apart := by
    refine List.pairwise_pair.mpr ⟨?_, ?_⟩
    · intro c hc
      cases hc
    · intro c _ c' hc'
      cases hc'
  have hperm : ownerLast.Perm ownerLast.reverse := ownerLast.reverse_perm.symm
  obtain ⟨hsame, hdirty, hdirty'⟩ :=
    batch_order_immaterial .empty hcounted hapart hperm (q := .empty) rfl
  have hdue : Index.empty.Due (.applyFunction namedFunction) sharedKey :=
    .function ⟨rfl, rfl, by decide, by decide⟩
  have hmem := (hdirty sharedKey).mpr (.inr ⟨_, List.mem_cons_of_mem _ List.mem_cons_self, hdue⟩)
  exact ⟨.empty, hcounted, hapart, hperm, rfl, hsame, hmem, (hdirty' sharedKey).mpr hmem⟩

end Index

end FaasOperator
