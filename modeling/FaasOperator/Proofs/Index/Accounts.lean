/-
# `FaasOperator.Proofs.Index.Accounts` — every change is answered for

## What is proved

Take any notifications, after any others, and look at them change by change (`moments`).  Then
(`routed_and_counted`):

* each change is answered for exactly, in the index that it finds (`Exact`): the key that is due is
  enqueued, if there is one, and just one counter goes up by one, of enqueued keys by cause or of
  ignored changes by reason; a deleted function enqueues nothing and moves none;
* the keys that get dirty are those that are due at one of these moments, and no others;
* the counters, resyncs apart, sum up to the number of changes since the start, but for the
  deletions of functions.

## Where it is not said

A Deployment whose metadata say no name tells nobody, even if its controller reference names a
cached function (`nameless_deployment_unrouted`): it is ignored, and counted as such.
-/
import FaasOperator.Proofs.Index.Moments
import FaasOperator.Proofs.Index.Routing

namespace FaasOperator

/-- The object that the single change is about is in this namespace. -/
def Notification.IsIn (ns : String) : Notification → Prop
  | .applyFunction f => f.metadata.ns = some ns
  | .applyDeployment d => d.metadata.ns = some ns
  | .deleteFunction key | .deleteDeployment key => key.ns = ns
  | .resetFunctions _ _ | .resetDeployments _ _ => False

/-! ## Counters -/

inductive Counter where
  | enqueues (cause : Cause)
  | ignored (reason : Ignored)
deriving DecidableEq

namespace IndexMetrics

def count (m : IndexMetrics) : Counter → Nat
  | .enqueues cause => m.enqueues.value cause.label
  | .ignored reason => m.ignored.value reason.label

/-- One counter goes up by one, and no other one moves. -/
def Ticks (m m' : IndexMetrics) (c : Counter) : Prop :=
  ∀ c', m'.count c' = m.count c' + if c' = c then 1 else 0

/-- The sum of all counters but the one of the resyncs. -/
def tally (m : IndexMetrics) : Nat :=
  m.count (.enqueues .function) + m.count (.enqueues .ownedDeployment) +
    (m.count (.ignored .malformed) + m.count (.ignored .unmanaged) + m.count (.ignored .orphaned) +
      m.count (.ignored .unchanged) + m.count (.ignored .unknownDelete))

theorem count_enqueued (m : IndexMetrics) (cause : Cause) (keys : Nat) (c : Counter) :
    (m.enqueued cause keys).count c = m.count c + if c = .enqueues cause then keys else 0 := by
  have hvalue (label : String) : (m.enqueued cause keys).enqueues.value label =
      if label = cause.label then m.enqueues.value cause.label + keys
      else m.enqueues.value label :=
    m.enqueues.value_set cause.label label _
  cases c with
  | ignored reason => rfl
  | enqueues cause' =>
      show (m.enqueued cause keys).enqueues.value cause'.label = _
      rw [hvalue]
      cases cause <;> cases cause' <;> rfl

theorem ticks_enqueued (m : IndexMetrics) (cause : Cause) :
    m.Ticks (m.enqueued cause 1) (.enqueues cause) :=
  m.count_enqueued cause 1

theorem ticks_ignore (m : IndexMetrics) (reason : Ignored) :
    m.Ticks (m.ignore reason) (.ignored reason) := by
  intro c
  have hvalue (label : String) : (m.ignore reason).ignored.value label =
      if label = reason.label then m.ignored.value reason.label + 1
      else m.ignored.value label :=
    m.ignored.value_set reason.label label _
  cases c with
  | enqueues cause => rfl
  | ignored reason' =>
      show (m.ignore reason).ignored.value reason'.label = _
      rw [hvalue]
      cases reason <;> cases reason' <;> rfl

theorem tally_congr {m m' : IndexMetrics} (h : ∀ c, m'.count c = m.count c) :
    m'.tally = m.tally := by
  simp only [tally, h]

theorem Ticks.tally {m m' : IndexMetrics} {c : Counter} (h : m.Ticks m' c)
    (hc : c ≠ .enqueues .resync) : m'.tally = m.tally + 1 := by
  unfold Ticks at h
  simp only [IndexMetrics.tally, h]
  cases c with
  | enqueues cause =>
      cases cause with
      | resync => exact absurd rfl hc
      | function | ownedDeployment => simp; omega
  | ignored reason => cases reason <;> simp <;> omega

theorem tally_enqueued_resync (m : IndexMetrics) (keys : Nat) :
    (m.enqueued .resync keys).tally = m.tally := by
  simp [tally, count_enqueued]

end IndexMetrics

namespace Index

/-! ## Changes -/

theorem SameCounts.count_eq {i j : Index} (h : i.SameCounts j) (c : Counter) :
    j.metrics.count c = i.metrics.count c := by
  cases c with
  | enqueues cause => exact congrArg (·.value cause.label) h.enqueues
  | ignored reason => exact congrArg (·.value reason.label) h.ignored

theorem Answered.ticks {P : ResourceKey → Prop} {i : Index} {r : Routed} (h : Answered P i r) :
    ∃ c, c ≠ .enqueues .resync ∧ i.metrics.Ticks r.1.metrics c := by
  cases h with
  | @enqueue cause key hcause _ =>
      refine ⟨.enqueues cause, ?_, IndexMetrics.ticks_enqueued _ cause⟩
      rintro ⟨⟩
      exact hcause rfl
  | @ignore reason _ => exact ⟨.ignored reason, nofun, IndexMetrics.ticks_ignore _ reason⟩

/-- How the index answers for a single change: it enqueues the key that is due, if there is one, and
that is the key of a function that it holds, in the namespace of the object that has changed; and it
moves one counter by one, unless it is a function that was deleted. -/
structure Exact (i : Index) (n : Notification) : Prop where
  mem_iff : ∀ key, key ∈ (i.notify n).2 ↔ i.Due n key
  length_le : (i.notify n).2.length ≤ 1
  cached : ∀ key ∈ (i.notify n).2, n.IsIn key.ns ∧ ∃ f, (i.notify n).1.function? key = some f
  counted : n.isCounted = true →
    ∃ c, c ≠ .enqueues .resync ∧ i.metrics.Ticks (i.notify n).1.metrics c
  uncounted : n.isCounted = false →
    ∀ c, (i.notify n).1.metrics.count c = i.metrics.count c

theorem Due.cached {i : Index} {n : Notification} {key : ResourceKey} (h : i.Due n key) :
    n.IsIn key.ns ∧ ∃ f, (i.notify n).1.function? key = some f := by
  cases h with
  | @function f _ hkey =>
      refine ⟨hkey.1, f, ?_⟩
      show (Index.applyFunction f i).1.function? key = some f
      rw [function?_applyFunction, if_pos (ObjectMeta.key?_eq_some_iff_names.mpr hkey)]
  | @applied d k _ hk _ htells =>
      obtain ⟨hns, -, f, hf⟩ := htells
      refine ⟨hk.1.trans (congrArg some hns.symm), f, ?_⟩
      show (Index.applyDeployment d i).1.function? key = some f
      rw [function?_applyDeployment, hf]
  | @deleted d k _ _ htells =>
      obtain ⟨hns, -, f, hf⟩ := htells
      refine ⟨hns.symm, f, ?_⟩
      show (Index.deleteDeployment k i).1.function? key = some f
      rw [function?_deleteDeployment, hf]

theorem exact_notify {i : Index} (hi : i.Reachable) {n : Notification} (hn : n.isSingle = true) :
    i.Exact n := by
  have hmem := mem_notify_iff hi hn
  refine ⟨hmem, ?_, fun key hkey => ((hmem key).mp hkey).cached, ?_, ?_⟩
  · cases hcounted : n.isCounted with
    | true =>
        obtain ⟨j, -, hanswered⟩ := answered_notify hi hcounted
        exact hanswered.length_le
    | false =>
        obtain ⟨k, rfl⟩ := Notification.eq_deleteFunction hn hcounted
        exact Nat.zero_le 1
  · intro hcounted
    obtain ⟨j, hsame, hanswered⟩ := answered_notify hi hcounted
    obtain ⟨c, hc, hticks⟩ := hanswered.ticks
    refine ⟨c, hc, fun c' => ?_⟩
    rw [hticks c', hsame.count_eq]
  · intro hcounted c
    obtain ⟨k, rfl⟩ := Notification.eq_deleteFunction hn hcounted
    exact (sameCounts_updateSpace i k.ns _).count_eq c

/-! ## Sums -/

theorem Exact.tally {i : Index} {n : Notification} (h : i.Exact n) :
    (i.notify n).1.metrics.tally = i.metrics.tally + if n.isCounted then 1 else 0 := by
  cases hcounted : n.isCounted with
  | true =>
      obtain ⟨c, hc, hticks⟩ := h.counted hcounted
      exact hticks.tally hc
  | false => exact IndexMetrics.tally_congr (h.uncounted hcounted)

theorem tally_singles {ps : List Notification} {i : Index} (hi : i.Reachable)
    (hps : ∀ p ∈ ps, p.isSingle = true) :
    (i.notifyAll ps).1.metrics.tally = i.metrics.tally + ps.countP Notification.isCounted := by
  induction ps generalizing i with
  | nil => rfl
  | cons p ps ih =>
      have hp := exact_notify hi (hps p List.mem_cons_self)
      have hrest : ∀ p' ∈ ps, p'.isSingle = true := fun p' h => hps p' (List.mem_cons_of_mem p h)
      rw [notifyAll_cons, ih (hi.notify p) hrest, hp.tally, List.countP_cons]
      omega

theorem tally_notifyAll {i : Index} (hi : i.Reachable) (ns : List Notification) :
    (i.notifyAll ns).1.metrics.tally =
      i.metrics.tally + (ns.flatMap Notification.parts).countP Notification.isCounted := by
  induction ns generalizing i with
  | nil => rfl
  | cons n ns ih =>
      have hn : (i.notify n).1.metrics.tally =
          i.metrics.tally + n.parts.countP Notification.isCounted := by
        rw [(notify_parts n i).2.2]
        exact tally_singles hi fun p hp => Notification.isSingle_of_mem_parts hp
      rw [notifyAll_cons, ih (hi.notify n), hn, List.flatMap_cons, List.countP_append]
      omega

theorem Heard.tally {ms : List Notification} {i : Index} (h : Heard ms i) :
    i.metrics.tally = (ms.flatMap Notification.parts).countP Notification.isCounted := by
  induction h with
  | empty => rfl
  | @notify ms i n h ih =>
      have hn := tally_notifyAll h.reachable [n]
      rw [notifyAll_cons] at hn
      show (i.notify n).1.metrics.tally = _
      rw [List.flatMap_append, List.countP_append, ← ih]
      exact hn
  | @resync ms i _ ih =>
      rw [← ih]
      exact IndexMetrics.tally_enqueued_resync i.metrics i.functionKeys.length

/-- However the index came about, and whatever notifications follow, these are taken in change by
change; each change is answered for exactly, in the index that it finds; the keys that get dirty are
those that are due at one of these moments; and the counters sum up to the number of changes since
the start, deleted functions apart. -/
theorem routed_and_counted {ms : List Notification} {i : Index} (h : Heard ms i)
    (ns : List Notification) {q : WorkQueue ResourceKey} (hopen : q.closed = false) :
    (i.moments ns).map (·.2) = ns.flatMap Notification.parts ∧
    (i.notifyAll ns).2 = (i.moments ns).flatMap (fun m => (m.1.notify m.2).2) ∧
    (∀ m ∈ i.moments ns, m.1.Exact m.2) ∧
    (∀ key, key ∈ (q.addAll (i.notifyAll ns).2).dirty ↔
      key ∈ q.dirty ∨ ∃ m ∈ i.moments ns, m.1.Due m.2 key) ∧
    (i.notifyAll ns).1.metrics.tally =
      ((ms ++ ns).flatMap Notification.parts).countP Notification.isCounted := by
  have hexact : ∀ m ∈ i.moments ns, m.1.Exact m.2 := fun m hm =>
    exact_notify (reachable_of_mem_moments h.reachable hm) (isSingle_of_mem_moments hm)
  refine ⟨map_snd_moments ns i, keys_moments ns i, hexact, ?_, ?_⟩
  · intro key
    rw [WorkQueue.mem_dirty_addAll hopen, keys_moments, List.mem_flatMap]
    have hdue : (∃ m ∈ i.moments ns, key ∈ (m.1.notify m.2).2) ↔
        ∃ m ∈ i.moments ns, m.1.Due m.2 key := by
      refine exists_congr fun m => and_congr_right fun hm => ?_
      exact (hexact m hm).mem_iff key
    rw [hdue]
  · rw [tally_notifyAll h.reachable, h.tally, List.flatMap_append, List.countP_append]

def namelessDeployment : Deployment :=
  { Deployment.empty with
    metadata := { (controlledDeployment FunctionObject.kind).metadata with name := none } }

/-- The Deployments are listed, of which one has no name and one is gone that was never heard of,
and then the function's own is deleted. -/
def relisted : List Notification := [
  .resetDeployments [controlledDeployment FunctionObject.kind, namelessDeployment]
    [⟨"openfaas-fn", "gone"⟩],
  .deleteDeployment sharedKey]

theorem routed_and_counted_relisted :
    Heard [.applyFunction namedFunction] namedIndex ∧
    (WorkQueue.empty (κ := ResourceKey)).closed = false ∧
    sharedKey ∈ (WorkQueue.empty.addAll (namedIndex.notifyAll relisted).2).dirty ∧
    (namedIndex.notifyAll relisted).1.metrics.tally = 5 := by
  have hheard : Heard [.applyFunction namedFunction] namedIndex :=
    Heard.empty.notify (.applyFunction namedFunction)
  obtain ⟨-, -, -, hdirty, htally⟩ :=
    routed_and_counted hheard relisted (q := .empty) rfl
  refine ⟨hheard, rfl, (hdirty sharedKey).mpr (.inr ?_), ?_⟩
  · have hmem : (namedIndex, .applyDeployment (controlledDeployment FunctionObject.kind)) ∈
        namedIndex.moments relisted := by
      rw [moments, relisted, trail, List.flatMap_cons]
      exact List.mem_append_left _ List.mem_cons_self
    have hnews : namedIndex.News sharedKey (controlledDeployment FunctionObject.kind) := by
      intro p v hp
      have hnone : namedIndex.deployment? sharedKey = none := by decide
      rw [hnone] at hp
      cases hp
    have htells : namedIndex.Tells sharedKey (controlledDeployment FunctionObject.kind) sharedKey :=
      ⟨rfl, ⟨_, rfl, rfl, rfl⟩, namedFunction, by decide⟩
    exact ⟨_, hmem, .applied ⟨rfl, rfl, by decide, by decide⟩ hnews htells⟩
  · rw [htally]
    decide

/-- A Deployment that names a cached function tells nobody if it has no name itself. -/
theorem nameless_deployment_unrouted :
    ¬∀ (i : Index) (d : Deployment) (q : WorkQueue ResourceKey) (key : ResourceKey),
      i.Reachable → q.closed = false →
      (key ∈ (q.addAll (i.notify (.applyDeployment d)).2).dirty ↔
        key ∈ q.dirty ∨ (d.metadata.ns = some key.ns ∧ d.NamesOwner key.name ∧
          (∃ f, i.function? key = some f) ∧ ∀ k, d.metadata.Names k → i.News k d)) := by
  intro h
  have hdirty := (h namedIndex namelessDeployment .empty sharedKey reachable_namedIndex rfl).mpr
    (.inr ⟨rfl, ⟨_, rfl, rfl, rfl⟩, ⟨namedFunction, rfl⟩, by rintro k ⟨-, ⟨⟩, -⟩⟩)
  have hnone : (namedIndex.notify (.applyDeployment namelessDeployment)).2 = [] := rfl
  rw [hnone] at hdirty
  cases hdirty

end Index

end FaasOperator
