/-
# `FaasOperator.Proofs.Index.Routing` — whom the index tells about a Deployment

## What is proved

A function goes by the name that it declares, but the index goes by the name in the Deployment's
controller reference, in the state that was applied or, of a Deployment that is gone, the one that
was cached last.  Suppose that each state of the Deployment of the declared name that a notification
brings or takes away names the function (`Routes`, `NamesOwner`), and that states at one version are
one state (`VersionsTell`).  Then, if the notification changes what is to be done about the
function, its key is in the queue afterwards (`enqueued_of_decision_ne`).

## Where it fails without that

A function whose name is taken by a Deployment of somebody else is not told when that one goes
(`foreign_deployment_unnoticed`); it has to wait for a resync.
-/
import FaasOperator.Proofs.Index.Owners
import FaasOperator.Proofs.Reconcile.Decision
import FaasOperator.Proofs.WorkQueue.Sound

namespace FaasOperator

/-- The Deployments that a notification says are gone. -/
def Notification.removedDeployments : Notification → List ResourceKey
  | .deleteDeployment key => [key]
  | .resetDeployments _ removed => removed
  | .applyFunction _ | .deleteFunction _ | .resetFunctions _ _ | .applyDeployment _ => []

namespace Index

/-! ## States of one Deployment -/

/-- The state of the Deployment under `k` is cached, or comes with the notification. -/
def Knows (i : Index) (n : Notification) (k : ResourceKey) (d : Deployment) : Prop :=
  i.deployment? k = some d ∨ (d ∈ n.deployments ∧ d.metadata.key? = some k)

/-- A state that comes with the notification differs from another at the same version in nothing. -/
def VersionsTell (i : Index) (n : Notification) : Prop :=
  ∀ k p d, i.Knows n k p → d ∈ n.deployments → d.metadata.key? = some k →
    sameVersion p d = true → p = d

/-- The owner of the Deployment under `k` is looked up in this state: the notification applies it,
or it is the one that is cached when the notification says that the Deployment is gone. -/
def Routes (i : Index) (n : Notification) (k : ResourceKey) (d : Deployment) : Prop :=
  (d ∈ n.deployments ∧ d.metadata.key? = some k) ∨
    (k ∈ n.removedDeployments ∧ i.deployment? k = some d)

/-! ## One change -/

section Change

variable {i : Index} {d : Deployment} {key k : ResourceKey} {f : FunctionObject}

theorem mem_applyDeployment (hkey : d.metadata.key? = some k) (hns : k.ns = key.ns)
    (howner : d.NamesOwner key.name) (hf : i.function? key = some f) :
    key ∈ (applyDeployment d i).2 ∨ ∃ p, i.deployment? k = some p ∧ sameVersion p d = true := by
  obtain ⟨j, -, hanswered⟩ := answered_applyDeployment d i
  by_cases hnews : i.News k d
  · have hnames := ObjectMeta.key?_eq_some_iff_names.mp hkey
    have htells : i.Tells k d key := ⟨hns.symm, howner, f, hf⟩
    exact .inl ((hanswered.mem_iff key).mpr (.applied hnames hnews htells))
  · rw [news_iff, Bool.not_eq_false, Option.any_eq_true] at hnews
    exact .inr hnews

theorem mem_deleteDeployment (hd : i.deployment? k = some d) (hkey : d.metadata.key? = some k)
    (hns : k.ns = key.ns) (howner : d.NamesOwner key.name) (hf : i.function? key = some f) :
    key ∈ (deleteDeployment k i).2 := by
  have hheld : ∀ e, i.deployment? k = some e → e.metadata.Names k := by
    intro e he
    rw [hd] at he
    cases he
    exact ObjectMeta.key?_eq_some_iff_names.mp hkey
  obtain ⟨j, -, hanswered⟩ := answered_deleteDeployment hheld
  exact (hanswered.mem_iff key).mpr (.deleted hd ⟨hns.symm, howner, f, hf⟩)

end Change

/-! ## One change after another -/

section Changes

variable {i : Index} {n : Notification} {key k : ResourceKey} {f : FunctionObject} {r : Routed}

/-- How things are after some of the changes to Deployments that a notification brings. -/
structure Noted (i : Index) (n : Notification) (key k : ResourceKey) (r : Routed) : Prop where
  functions : r.1.function? = i.function?
  known : ∀ d, r.1.deployment? k = some d → i.Knows n k d
  enqueued : key ∈ r.2 ∨ r.1.deployment? k = i.deployment? k

/-- A change that enqueues the key, or leaves what is cached under `k` as it was. -/
theorem Noted.change (h : Noted i n key k r) {r' : Routed}
    (hfunctions : r'.1.function? = r.1.function?)
    (hknown : ∀ d, r'.1.deployment? k = some d → i.Knows n k d)
    (hkeys : key ∈ r'.2 ∨ r'.1.deployment? k = r.1.deployment? k) :
    Noted i n key k (r'.1, r.2 ++ r'.2) where
  functions := hfunctions.trans h.functions
  known := hknown
  enqueued := by
    rcases hkeys with hmem | hsame
    · exact .inl (List.mem_append_right _ hmem)
    · exact h.enqueued.imp (List.mem_append_left _) fun heq => hsame.trans heq

theorem Noted.applyDeployment (h : Noted i n key k r) (hversions : i.VersionsTell n)
    (hns : k.ns = key.ns) (hf : i.function? key = some f) {d : Deployment}
    (hd : d ∈ n.deployments) (howner : d.metadata.key? = some k → d.NamesOwner key.name) :
    Noted i n key k
      ((Index.applyDeployment d r.1).1, r.2 ++ (Index.applyDeployment d r.1).2) := by
  have hequation := deployment?_applyDeployment d r.1 k
  by_cases hkey : d.metadata.key? = some k
  · rw [if_pos hkey] at hequation
    refine h.change (function?_applyDeployment d r.1) (fun e he => ?_) ?_
    · rw [hequation] at he
      cases he
      exact .inr ⟨hd, hkey⟩
    · have hf' : r.1.function? key = some f := by
        rw [h.functions, hf]
      refine (mem_applyDeployment hkey hns (howner hkey) hf').imp id ?_
      -- the version is cached already, so the state is
      rintro ⟨p, hp, hversion⟩
      rw [hequation, hp, hversions k p d (h.known p hp) hd hkey hversion]
  · rw [if_neg hkey] at hequation
    exact h.change (function?_applyDeployment d r.1) (fun e he => h.known e (hequation ▸ he))
      (.inr hequation)

theorem Noted.deleteDeployment (h : Noted i n key k r) (hns : k.ns = key.ns)
    (hf : i.function? key = some f) {removed : ResourceKey}
    (hkey : ∀ d, i.Knows n k d → d.metadata.key? = some k)
    (howner : removed = k → ∀ d, r.1.deployment? k = some d → d.NamesOwner key.name) :
    Noted i n key k
      ((Index.deleteDeployment removed r.1).1,
        r.2 ++ (Index.deleteDeployment removed r.1).2) := by
  have hequation := deployment?_deleteDeployment removed r.1 k
  by_cases hk : k = removed
  · subst hk
    rw [if_pos rfl] at hequation
    refine h.change (function?_deleteDeployment k r.1) (fun e he => ?_) ?_
    · rw [hequation] at he
      cases he
    · cases hd : r.1.deployment? k with
      | none => exact .inr hequation
      | some d =>
          have hf' : r.1.function? key = some f := by
            rw [h.functions, hf]
          exact .inl (mem_deleteDeployment hd (hkey d (h.known d hd)) hns (howner rfl d hd) hf')
  · rw [if_neg hk] at hequation
    exact h.change (function?_deleteDeployment removed r.1)
      (fun e he => h.known e (hequation ▸ he)) (.inr hequation)

theorem Noted.each {α : Type} {step : α → Index → Routed} {xs : List α} (h : Noted i n key k r)
    (hstep : ∀ x ∈ xs, ∀ r, Noted i n key k r →
      Noted i n key k ((step x r.1).1, r.2 ++ (step x r.1).2)) :
    Noted i n key k (each step xs r) :=
  each_induction h fun x hx j keys hj => hstep x hx (j, keys) hj

end Changes

/-! ## Notifications -/

section Notifications

variable {i : Index} {n : Notification} {key k : ResourceKey} {f : FunctionObject}

theorem deployment?_each_functions {α : Type} {step : α → Index → Routed}
    (hstep : ∀ x j, (step x j).1.deployment? = j.deployment?) (xs : List α) (r : Routed) :
    (each step xs r).1.deployment? = r.1.deployment? :=
  each_induction (P := fun r' => r'.1.deployment? = r.1.deployment?) rfl
    fun x _ j _ hj => (hstep x j).trans hj

theorem Reachable.key?_of_knows (hi : i.Reachable) {d : Deployment} (h : i.Knows n k d) :
    d.metadata.key? = some k := by
  rcases h with hd | ⟨-, hkey⟩
  · exact hi.holds.deployments k d hd
  · exact hkey

/-- Whoever every routed state of a Deployment names is enqueued, or else it is cached as before. -/
theorem enqueued_or_deployment?_eq (hi : i.Reachable) (hversions : i.VersionsTell n)
    (hf : i.function? key = some f) (hk : k.ns = key.ns)
    (hrouted : ∀ d, i.Routes n k d → d.NamesOwner key.name) :
    key ∈ (i.notify n).2 ∨ (i.notify n).1.deployment? k = i.deployment? k := by
  have hstart : Noted i n key k (i, []) := ⟨rfl, fun d hd => .inl hd, .inr rfl⟩
  have hkey := fun d (h : i.Knows n k d) => hi.key?_of_knows h
  cases n with
  | applyFunction g => exact .inr (congrFun (deployment?_applyFunction g i) k)
  | deleteFunction g => exact .inr (congrFun (deployment?_deleteFunction g i) k)
  | resetFunctions fs removed =>
      have happly := deployment?_each_functions deployment?_applyFunction fs (i, [])
      have hdelete := deployment?_each_functions deployment?_deleteFunction removed
        (each applyFunction fs (i, []))
      exact .inr (congrFun (hdelete.trans happly) k)
  | applyDeployment d =>
      exact (hstart.applyDeployment hversions hk hf List.mem_cons_self fun hkey =>
        hrouted d (.inl ⟨List.mem_cons_self, hkey⟩)).enqueued
  | deleteDeployment removed =>
      refine (hstart.deleteDeployment hk hf hkey ?_).enqueued
      rintro rfl d hd
      exact hrouted d (.inr ⟨List.mem_cons_self, hd⟩)
  | resetDeployments ds removed =>
      have happly : Noted i (.resetDeployments ds removed) key k
          (each applyDeployment ds (i, [])) :=
        hstart.each fun d hd r hr => hr.applyDeployment hversions hk hf hd fun hkey =>
          hrouted d (.inl ⟨hd, hkey⟩)
      have hdelete : Noted i (.resetDeployments ds removed) key k
          (each deleteDeployment removed (each applyDeployment ds (i, []))) := by
        refine happly.each fun k' hk' r hr => hr.deleteDeployment hk hf hkey ?_
        intro hremoved d hd
        -- what is cached by now was cached before, or has been applied
        rcases hr.known d hd with hcached | hcarried
        · exact hrouted d (.inr ⟨hremoved ▸ hk', hcached⟩)
        · exact hrouted d (.inl hcarried)
      exact hdelete.enqueued

/-- No function has to wait for a resync, as far as it is named by the controller reference of each
Deployment by its name that the index looks the owner up in.  After any notification, a function of
which it is now to be decided otherwise has its key in the queue. -/
theorem enqueued_of_decision_ne {q : WorkQueue ResourceKey} (hi : i.Reachable)
    (hversions : i.VersionsTell n) (hopen : q.closed = false)
    (hf : (i.notify n).1.function? key = some f)
    (hrouted : ∀ d, i.Routes n ⟨key.ns, f.spec.name⟩ d → d.NamesOwner key.name)
    (hdecision : (i.notify n).1.decision? key ≠ i.decision? key) :
    key ∈ (q.addAll (i.notify n).2).dirty := by
  refine (WorkQueue.mem_dirty_addAll hopen).mpr (.inr ?_)
  by_contra hkey
  have hbefore : i.function? key = some f :=
    (covers_notify n i key f hf).resolve_left hkey
  have hsame := (enqueued_or_deployment?_eq hi hversions hbefore (k := ⟨key.ns, f.spec.name⟩) rfl
    hrouted).resolve_left hkey
  apply hdecision
  rw [decision?, decision?, hf, hbefore, Option.map_some, Option.map_some, hsame]

end Notifications

/-! ## Its own Deployment, and another's -/

def namedFunction : FunctionObject :=
  ⟨{ ObjectMeta.empty with name := some "echo", ns := some "openfaas-fn", uid := some "8f3c5e1a" },
    { FunctionSpec.empty with name := "echo" }, none⟩

def namedIndex : Index := (Index.empty.notify (.applyFunction namedFunction)).1

theorem reachable_namedIndex : namedIndex.Reachable := .notify _ .empty

/-- A Deployment of that name, controlled by an object of some kind of the same name. -/
def controlledDeployment (kind : String) : Deployment :=
  { Deployment.empty with
    metadata := { ObjectMeta.empty with
      name := some "echo"
      ns := some "openfaas-fn"
      resourceVersion := some "1"
      ownerReferences := some [⟨"v1", kind, "echo", "8f3c5e1a", some true, none⟩] } }

def sharedKey : ResourceKey := ⟨"openfaas-fn", "echo"⟩

/-- The index with both of them. -/
def cachedBoth (kind : String) : Index :=
  ((Index.empty.notify (.applyFunction namedFunction)).1.notify
    (.applyDeployment (controlledDeployment kind))).1

theorem reachable_cachedBoth (kind : String) : (cachedBoth kind).Reachable :=
  (Reachable.empty.notify _).notify _

theorem versionsTell_deleteDeployment (i : Index) (key : ResourceKey) :
    i.VersionsTell (.deleteDeployment key) :=
  fun _ _ _ _ h => absurd h List.not_mem_nil

theorem enqueued_of_decision_ne_deleted :
    (cachedBoth FunctionObject.kind).decision? sharedKey = some .update ∧
    ((cachedBoth FunctionObject.kind).notify (.deleteDeployment sharedKey)).1.decision? sharedKey =
      some .create ∧
    sharedKey ∈ ((WorkQueue.empty (κ := ResourceKey)).addAll
      ((cachedBoth FunctionObject.kind).notify (.deleteDeployment sharedKey)).2).dirty := by
  have hbefore : (cachedBoth FunctionObject.kind).decision? sharedKey = some .update := by decide
  have hafter : ((cachedBoth FunctionObject.kind).notify
      (.deleteDeployment sharedKey)).1.decision? sharedKey = some .create := by decide
  refine ⟨hbefore, hafter, enqueued_of_decision_ne (f := namedFunction) (reachable_cachedBoth _)
    (versionsTell_deleteDeployment _ _) rfl (by decide) ?_ ?_⟩
  · rintro d (⟨hd, -⟩ | ⟨-, hd⟩)
    · cases hd
    · cases hd
      exact ⟨_, rfl, rfl, rfl⟩
  · rw [hbefore, hafter]
    decide

/-- A function whose Deployment cannot be made because there is another's of that name is not
enqueued when that goes. -/
theorem foreign_deployment_unnoticed :
    ¬∀ (i : Index) (n : Notification) (q : WorkQueue ResourceKey) (key : ResourceKey)
      (f : FunctionObject), i.Reachable → i.VersionsTell n → q.closed = false →
      (i.notify n).1.function? key = some f →
      (i.notify n).1.decision? key ≠ i.decision? key →
      key ∈ (q.addAll (i.notify n).2).dirty := by
  intro h
  have hbefore : (cachedBoth "ReplicaSet").decision? sharedKey = some .conflict := by decide
  have hafter : ((cachedBoth "ReplicaSet").notify
      (.deleteDeployment sharedKey)).1.decision? sharedKey = some .create := by decide
  have hdirty := h (cachedBoth "ReplicaSet") (.deleteDeployment sharedKey) .empty sharedKey
    namedFunction (reachable_cachedBoth _) (versionsTell_deleteDeployment _ _) rfl (by decide)
    (by rw [hbefore, hafter]; decide)
  have hnone : ((cachedBoth "ReplicaSet").notify (.deleteDeployment sharedKey)).2 = [] := by decide
  rw [hnone] at hdirty
  cases hdirty

end Index

end FaasOperator
