/-
# `FaasOperator.Proofs.Operator.System` — the operator as it runs

Index, queue and any number of workers, each going on at any time.  A step (`Step`) is what one of
them does under one lock, so that between two steps of a reconcile anything can happen:
notifications, resyncs, delayed adds, other workers, and whatever goes on in the cluster.

* A notification changes the index, and the keys that it enqueues are added to the queue one by one
  in later steps; the same holds of a resync.
* A worker takes a key, looks up the function, looks up the Deployment, makes the calls of its plan
  one after the other, settles the key with the queue, and releases it.
* What a call is answered with, and what else happens in the cluster, is up to the surroundings.

A run is the list of what has happened, the latest first, with the state it has led to.  A statement
about all runs in all surroundings supposes nothing about the answers of the cluster or the order of
the news.  Time is left out: a delayed add may be made at any moment.

In every run the queue is sound, and no key is held by two workers (`Run.orderly`).
-/
import Mathlib.Logic.Function.Basic
import FaasOperator.Index
import FaasOperator.Proofs.WorkQueue.Sound

namespace FaasOperator

/-- What the operator runs in, and its settings. -/
structure Surroundings where
  State : Type
  /-- How things may stand at the start. -/
  Starts : State → Prop
  /-- How a call may be answered, and how things stand then. -/
  Answers : State → (c : Call) → c.Answer → State → Prop
  /-- What may happen without the operator. -/
  Moves : State → State → Prop
  /-- What a watch may report. -/
  Reports : State → Notification → Prop
  config : ReconcileConfig
  backoff : Backoff

/-- How far a worker is with a key. -/
inductive Worker where
  | idle
  /-- It holds the key. -/
  | took (key : ResourceKey)
  /-- It has looked for the function. -/
  | found (key : ResourceKey) (f : Option FunctionObject)
  /-- It has looked for the Deployment too, and this is left to do. -/
  | busy (key : ResourceKey) (seen : Observed) (rest : Attempt Outcome)
  /-- It has told the queue how the reconcile ended. -/
  | settled (key : ResourceKey) (result : Except ReconcileError Outcome)

/-- The key that a worker holds. -/
def Worker.key? : Worker → Option ResourceKey
  | .idle => none
  | .took key | .found key _ | .busy key _ _ | .settled key _ => some key

inductive Event where
  /-- A notification was taken in, and these keys are to be added. -/
  | notified (n : Notification) (keys : List ResourceKey)
  /-- A resync began, and these keys are to be added. -/
  | resynced (keys : List ResourceKey)
  | added (key : ResourceKey)
  | took (worker : Nat) (key : ResourceKey)
  | found (worker : Nat) (key : ResourceKey) (f : Option FunctionObject)
  | looked (worker : Nat) (key : ResourceKey)
  | called (worker : Nat) (key : ResourceKey) (c : Call) (answer : c.Answer)
  | settled (worker : Nat) (key : ResourceKey) (result : Except ReconcileError Outcome)
  | released (worker : Nat) (key : ResourceKey)
  /-- Something happened without the operator. -/
  | moved
  /-- The queue was closed. -/
  | closed

/-- The key is to be added, or was. -/
def Event.Enqueues (key : ResourceKey) : Event → Prop
  | .notified _ keys | .resynced keys => key ∈ keys
  | .added k => k = key
  | _ => False

def Event.Takes (key : ResourceKey) : Event → Prop
  | .took _ k => k = key
  | _ => False

/-- The state of the operator. -/
structure Operator (σ : Type) where
  index : Index
  queue : WorkQueue ResourceKey
  /-- Keys that notifications and resyncs under way have still to add. -/
  routing : List ResourceKey
  /-- Adds that wait for their time. -/
  delayed : List (Delayed ResourceKey)
  workers : Nat → Worker
  surroundings : σ

namespace Operator

def start {σ : Type} (s : σ) : Operator σ := ⟨.empty, .empty, [], [], fun _ => .idle, s⟩

/-- An add of the key is still to come: from a notification or a resync under way, or after a delay.
-/
def AwaitsAdd {σ : Type} (w : Operator σ) (key : ResourceKey) : Prop :=
  key ∈ w.routing ∨ ∃ d ∈ w.delayed, d.key = key

/-- With nothing under way and nothing delayed, no add is to come. -/
theorem not_awaitsAdd {σ : Type} {w : Operator σ} (hr : w.routing = []) (hd : w.delayed = [])
    (key : ResourceKey) : ¬w.AwaitsAdd key := by
  rintro (h | ⟨d, h, -⟩)
  · rw [hr] at h
    cases h
  · rw [hd] at h
    cases h

def setWorker {σ : Type} (w : Operator σ) (i : Nat) (s : Worker) : Operator σ :=
  { w with workers := Function.update w.workers i s }

variable (S : Surroundings)

/-- What can happen next. -/
inductive Step : Operator S.State → Event → Operator S.State → Prop
  | notify {w : Operator S.State} {n : Notification} :
      S.Reports w.surroundings n →
      Step w (.notified n (w.index.notify n).2)
        { w with
          index := (w.index.notify n).1
          routing := w.routing ++ (w.index.notify n).2 }
  | resync {w : Operator S.State} :
      Step w (.resynced w.index.resync.2)
        { w with index := w.index.resync.1, routing := w.routing ++ w.index.resync.2 }
  | add {w : Operator S.State} {k : ResourceKey} :
      k ∈ w.routing →
      Step w (.added k)
        { w with queue := w.queue.add k, routing := w.routing.erase k }
  | fire {w : Operator S.State} {d : Delayed ResourceKey} :
      d ∈ w.delayed →
      Step w (.added d.key)
        { w with queue := w.queue.add d.key, delayed := w.delayed.erase d }
  | take {w : Operator S.State} {i : Nat} {k : ResourceKey} {q : WorkQueue ResourceKey} :
      w.workers i = .idle → w.queue.get = (.key k, q) →
      Step w (.took i k) { w.setWorker i (.took k) with queue := q }
  | find {w : Operator S.State} {i : Nat} {k : ResourceKey} :
      w.workers i = .took k →
      Step w (.found i k (w.index.function? k))
        (w.setWorker i (.found k (w.index.function? k)))
  | look {w : Operator S.State} {i : Nat} {k : ResourceKey} {f : Option FunctionObject} :
      w.workers i = .found k f →
      Step w (.looked i k)
        (w.setWorker i (.busy k ⟨fun _ => f, w.index.deployment?⟩
          (sync S.config ⟨fun _ => f, w.index.deployment?⟩ k)))
  | call {w : Operator S.State} {i : Nat} {k : ResourceKey} {seen : Observed} {c : Call}
      {next : c.Answer → Attempt Outcome} {a : c.Answer} {s : S.State} :
      w.workers i = .busy k seen (.call c next) → S.Answers w.surroundings c a s →
      Step w (.called i k c a)
        { w.setWorker i (.busy k seen (next a)) with surroundings := s }
  | settle {w : Operator S.State} {i : Nat} {k : ResourceKey} {seen : Observed}
      {r : Except ReconcileError Outcome} :
      w.workers i = .busy k seen (.done r) →
      Step w (.settled i k r)
        { w.setWorker i (.settled k r) with
          queue := (w.queue.settle S.backoff k r).1
          delayed := w.delayed ++ (w.queue.settle S.backoff k r).2.toList }
  | release {w : Operator S.State} {i : Nat} {k : ResourceKey}
      {r : Except ReconcileError Outcome} :
      w.workers i = .settled k r →
      Step w (.released i k) { w.setWorker i .idle with queue := w.queue.done k }
  | move {w : Operator S.State} {s : S.State} :
      S.Moves w.surroundings s → Step w .moved { w with surroundings := s }
  | close {w : Operator S.State} : Step w .closed { w with queue := w.queue.shutdown }

/-- The runs: what has happened, the latest first, and the state after it. -/
inductive Run : List Event → Operator S.State → Prop
  | start {s : S.State} : S.Starts s → Run [] (.start s)
  | step {t : List Event} {w w' : Operator S.State} {e : Event} :
      Run t w → Step S w e w' → Run (e :: t) w'

/-- From one state to another: what has happened on the way, the latest first. -/
inductive Path (w : Operator S.State) : List Event → Operator S.State → Prop
  | nil : Path w [] w
  | step {t : List Event} {w' w'' : Operator S.State} {e : Event} :
      Path w t w' → Step S w' e w'' → Path w (e :: t) w''

variable {S}

theorem workers_setWorker_self {σ : Type} (w : Operator σ) (i : Nat) (s : Worker) :
    (w.setWorker i s).workers i = s :=
  Function.update_self ..

theorem workers_setWorker_of_ne {σ : Type} (w : Operator σ) {i j : Nat} (h : j ≠ i) (s : Worker) :
    (w.setWorker i s).workers j = w.workers j :=
  Function.update_of_ne h ..

theorem forall_setWorker {σ : Type} {w : Operator σ} {P : Worker → Prop} (h : ∀ i, P (w.workers i))
    {i : Nat} {s : Worker} (hs : P s) (j : Nat) : P ((w.setWorker i s).workers j) := by
  by_cases hj : j = i
  · rw [hj, workers_setWorker_self]
    exact hs
  · rw [workers_setWorker_of_ne w hj]
    exact h j

theorem Run.append {t t' : List Event} {w w' : Operator S.State} (h : Run S t w)
    (hpath : Path S w t' w') : Run S (t' ++ t) w' := by
  induction hpath with
  | nil => exact h
  | step _ hs ih => exact ih.step hs

theorem Step.closed_eq_false {w w' : Operator S.State} {e : Event} (h : Step S w e w')
    (hopen : w'.queue.closed = false) : w.queue.closed = false := by
  cases h with
  | add _ | fire _ => rwa [← WorkQueue.closed_add]
  | take _ hget => exact (WorkQueue.closed_get hget).symm.trans hopen
  | settle _ => exact (WorkQueue.settle_spec _ _ _ _).2.1.symm.trans hopen
  | close => cases hopen
  | notify _ | resync | find _ | look _ | call _ _ | release _ | move _ => exact hopen

/-! ## Who holds what -/

/-- The queue is sound, and the keys that it has handed out are held by one worker each. -/
structure Orderly (w : Operator S.State) : Prop where
  queue : w.queue.Sound
  held : ∀ i key, (w.workers i).key? = some key → key ∈ w.queue.processing
  alone : ∀ i j key, (w.workers i).key? = some key → (w.workers j).key? = some key → i = j

theorem orderly_start (s : S.State) : (start s).Orderly where
  queue := WorkQueue.sound_empty
  held := fun _ _ h => by cases h
  alone := fun _ _ _ h => by cases h

/-- A worker that gets on with its key leaves it at that who holds what. -/
theorem key?_setWorker {w : Operator S.State} {i : Nat} {s : Worker}
    (h : s.key? = (w.workers i).key?) (j : Nat) :
    ((w.setWorker i s).workers j).key? = (w.workers j).key? := by
  by_cases hj : j = i
  · rw [hj, workers_setWorker_self, h]
  · rw [workers_setWorker_of_ne w hj]

theorem Orderly.congr {w w' : Operator S.State} (h : w.Orderly) (hq : w'.queue.Sound)
    (hp : w'.queue.processing = w.queue.processing)
    (hw : ∀ j, (w'.workers j).key? = (w.workers j).key?) : w'.Orderly where
  queue := hq
  held := fun i key hi => hp ▸ h.held i key (hw i ▸ hi)
  alone := fun i j key hi hj => h.alone i j key (hw i ▸ hi) (hw j ▸ hj)

theorem Orderly.heldBy {w : Operator S.State} (h : w.Orderly) :
    w.queue.HeldBy fun i key => (w.workers i).key? = some key :=
  ⟨h.queue, h.held, h.alone⟩

theorem Orderly.take {w : Operator S.State} {i : Nat} {key : ResourceKey}
    {queue : WorkQueue ResourceKey} (h : w.Orderly) (hget : w.queue.get = (.key key, queue)) :
    Orderly { w.setWorker i (.took key) with queue := queue } := by
  -- who holds the key now is the worker that took it
  have hnew (j : Nat) (k : ResourceKey)
      (hj : ((w.setWorker i (.took key)).workers j).key? = some k) :
      (j = i ∧ k = key) ∨ (w.workers j).key? = some k := by
    by_cases hji : j = i
    · rw [hji, workers_setWorker_self] at hj
      exact .inl ⟨hji, (Option.some.inj hj).symm⟩
    · rw [workers_setWorker_of_ne w hji] at hj
      exact .inr hj
  obtain ⟨hqueue, hheld, halone⟩ := h.heldBy.take hget hnew
  exact ⟨hqueue, hheld, halone⟩

theorem Orderly.release {w : Operator S.State} {i : Nat} {key : ResourceKey} (h : w.Orderly)
    (hi : (w.workers i).key? = some key) :
    Orderly { w.setWorker i .idle with queue := w.queue.done key } := by
  have hnew (j : Nat) (k : ResourceKey)
      (hj : ((w.setWorker i .idle).workers j).key? = some k) :
      (w.workers j).key? = some k ∧ k ≠ key := by
    by_cases hji : j = i
    · rw [hji, workers_setWorker_self] at hj
      cases hj
    · rw [workers_setWorker_of_ne w hji] at hj
      refine ⟨hj, ?_⟩
      rintro rfl
      exact hji (h.alone j i k hj hi)
  obtain ⟨hqueue, hheld, halone⟩ := h.heldBy.release hi hnew
  exact ⟨hqueue, hheld, halone⟩

theorem Orderly.step {w w' : Operator S.State} {e : Event} (h : w.Orderly) (hs : Step S w e w') :
    w'.Orderly := by
  cases hs with
  | notify _ | resync | move _ => exact h.congr h.queue rfl fun _ => rfl
  | add _ => exact h.congr (h.queue.add _) (WorkQueue.processing_add _ _) fun _ => rfl
  | fire _ => exact h.congr (h.queue.add _) (WorkQueue.processing_add _ _) fun _ => rfl
  | take _ hget => exact h.take hget
  | find hi | look hi => exact h.congr h.queue rfl (key?_setWorker (by rw [hi]; rfl))
  | call hi _ => exact h.congr h.queue rfl (key?_setWorker (by rw [hi]; rfl))
  | settle hi =>
      exact h.congr (h.queue.settle _ _ _) (WorkQueue.settle_spec _ _ _ _).1
        (key?_setWorker (by rw [hi]; rfl))
  | release hi => exact h.release (by rw [hi]; rfl)
  | close => exact h.congr (h.queue.congr rfl rfl rfl) rfl fun _ => rfl

theorem Run.orderly {t : List Event} {w : Operator S.State} (h : Run S t w) : w.Orderly := by
  induction h with
  | start _ => exact orderly_start _
  | step _ hs ih => exact ih.step hs

theorem Path.orderly {t : List Event} {w w' : Operator S.State} (h : Path S w t w')
    (hw : w.Orderly) : w'.Orderly := by
  induction h with
  | nil => exact hw
  | step _ hs ih => exact ih.step hs

theorem Orderly.idle {w : Operator S.State} (h : w.Orderly)
    (hprocessing : w.queue.processing = []) (i : Nat) : w.workers i = .idle := by
  have hfree (key : ResourceKey) : (w.workers i).key? ≠ some key := by
    intro hkey
    have hheld := h.held i key hkey
    rw [hprocessing] at hheld
    cases hheld
  cases hi : w.workers i with
  | idle => rfl
  | took key | found key _ | busy key _ _ | settled key _ =>
      rw [hi] at hfree
      exact absurd rfl (hfree key)

theorem Orderly.dirty_eq_nil {w : Operator S.State} (h : w.Orderly)
    (hwaiting : w.queue.waiting = []) (hprocessing : w.queue.processing = []) :
    w.queue.dirty = [] := by
  rw [List.eq_nil_iff_forall_not_mem]
  intro key hkey
  rcases h.queue.placed key hkey with hw | hp
  · rw [hwaiting] at hw
    cases hw
  · rw [hprocessing] at hp
    cases hp

end Operator

end FaasOperator
