/-
# `FaasOperator.Proofs.WorkQueue.Shared` — a work queue as it is shared

Callers add keys, at once, after a delay, or after the delay that the failures of a key call for;
timers make the adds whose time has come; any number of workers take keys and release them.  A step
is what one of them does while it has the queue to itself, so that anything can happen between the
two halves of a rate-limited add, the count of the failure and the add itself.  A run is the list of
what has happened since a state, the latest first.

## What is proved

Nothing is supposed of a run but that a worker releases only what it has taken and not released.
Then, in every state that it leads to (`sound_of_run`):

* each key waits at most once and not while it is held, and the dirty keys are those that wait and
  those that were added while they are held (`WorkQueue.Sound`);
* what the queue has handed out is what the workers hold;
* no key is held by two workers, or twice by one.
-/
import Mathlib.Logic.Function.Basic
import FaasOperator.Proofs.WorkQueue.Sound

namespace FaasOperator

/-- A queue, and how far those are who use it. -/
structure SharedQueue (κ : Type) where
  queue : WorkQueue κ
  /-- Adds that callers are about to make, each with its delay. -/
  asked : List (Delayed κ)
  /-- Adds that wait for their time. -/
  delayed : List (Delayed κ)
  /-- What each worker has taken and not released. -/
  held : Nat → List κ

inductive QueueEvent (κ : Type) where
  /-- A key was added; it was `marked` by that if it was not dirty and the queue not closed. -/
  | added (key : κ) (marked : Bool)
  /-- A caller began an add with a delay. -/
  | asked (d : Delayed κ)
  /-- A caller counted a failure, and began an add with the delay that follows from it. -/
  | counted (key : κ)
  /-- An add was put off, or dropped because the queue was closed. -/
  | putOff (d : Delayed κ)
  | forgot (key : κ)
  | took (worker : Nat) (key : κ)
  /-- A worker asked for a key and got this instead. -/
  | missed (worker : Nat) (answer : Take κ)
  | released (worker : Nat) (key : κ)
  | closed

namespace SharedQueue

variable {κ : Type}

def start : SharedQueue κ := ⟨.empty, [], [], fun _ => []⟩

variable {w w' : SharedQueue κ} {k : κ}

/-! ## Who holds what -/

/-- The queue is sound, the workers hold what it has handed out, and no key is held twice. -/
structure Orderly (w : SharedQueue κ) : Prop where
  heldBy : w.queue.HeldBy fun i k => k ∈ w.held i
  holder : ∀ k ∈ w.queue.processing, ∃ i, k ∈ w.held i
  once : ∀ i, (w.held i).Nodup

theorem orderly_start : (start : SharedQueue κ).Orderly where
  heldBy := ⟨WorkQueue.sound_empty, nofun, nofun⟩
  holder := nofun
  once := fun _ => .nil

theorem Orderly.congr (h : w.Orderly) (hq : w'.queue.Sound)
    (hp : w'.queue.processing = w.queue.processing) (hw : w'.held = w.held) : w'.Orderly where
  heldBy := by
    refine ⟨hq, ?_, ?_⟩
    · rw [hp, hw]
      exact h.heldBy.held
    · rw [hw]
      exact h.heldBy.alone
  holder := by
    rw [hp, hw]
    exact h.holder
  once := by
    rw [hw]
    exact h.once

theorem Orderly.mem_processing_iff (h : w.Orderly) :
    k ∈ w.queue.processing ↔ ∃ i, k ∈ w.held i :=
  ⟨h.holder k, fun ⟨i, hi⟩ => h.heldBy.held i k hi⟩

theorem mem_held_take {i j : Nat} {a : κ} (hw : w'.held = Function.update w.held i (k :: w.held i)) :
    a ∈ w'.held j ↔ (j = i ∧ a = k) ∨ a ∈ w.held j := by
  rw [hw]
  by_cases hj : j = i
  · subst hj
    rw [Function.update_self, List.mem_cons]
    simp
  · rw [Function.update_of_ne hj]
    simp [hj]

/-! ## Steps and runs -/

variable [DecidableEq κ]

/-- An add of the key would mark it. -/
def admits (w : SharedQueue κ) (k : κ) : Bool := !(w.queue.closed || w.queue.dirty.contains k)

variable (backoff : Backoff)

/-- What can happen next. -/
inductive Step : SharedQueue κ → QueueEvent κ → SharedQueue κ → Prop
  | add {w : SharedQueue κ} {k : κ} :
      Step w (.added k (w.admits k)) { w with queue := w.queue.add k }
  | ask {w : SharedQueue κ} {d : Delayed κ} :
      Step w (.asked d) { w with asked := d :: w.asked }
  | count {w : SharedQueue κ} {k : κ} :
      Step w (.counted k)
        { w with
          queue := w.queue.countFailure k
          asked := ⟨k, backoff.delay (w.queue.numRequeues k)⟩ :: w.asked }
  | addNow {w : SharedQueue κ} {d : Delayed κ} :
      d ∈ w.asked → d.delay.isZero = true →
      Step w (.added d.key (w.admits d.key))
        { w with
          queue := (w.queue.addAfter d.key d.delay).1
          asked := w.asked.erase d
          delayed := w.delayed ++ (w.queue.addAfter d.key d.delay).2.toList }
  | putOff {w : SharedQueue κ} {d : Delayed κ} :
      d ∈ w.asked → d.delay.isZero = false →
      Step w (.putOff d)
        { w with
          queue := (w.queue.addAfter d.key d.delay).1
          asked := w.asked.erase d
          delayed := w.delayed ++ (w.queue.addAfter d.key d.delay).2.toList }
  | fire {w : SharedQueue κ} {d : Delayed κ} :
      d ∈ w.delayed →
      Step w (.added d.key (w.admits d.key))
        { w with queue := w.queue.add d.key, delayed := w.delayed.erase d }
  | forget {w : SharedQueue κ} {k : κ} :
      Step w (.forgot k) { w with queue := w.queue.forget k }
  | take {w : SharedQueue κ} {i : Nat} {k : κ} {q : WorkQueue κ} :
      w.queue.get = (.key k, q) →
      Step w (.took i k) { w with queue := q, held := Function.update w.held i (k :: w.held i) }
  | miss {w : SharedQueue κ} {i : Nat} {answer : Take κ} {q : WorkQueue κ} :
      w.queue.get = (answer, q) → (∀ k, answer ≠ .key k) →
      Step w (.missed i answer) { w with queue := q }
  | release {w : SharedQueue κ} {i : Nat} {k : κ} :
      k ∈ w.held i →
      Step w (.released i k)
        { w with
          queue := w.queue.done k
          held := Function.update w.held i ((w.held i).erase k) }
  | close {w : SharedQueue κ} : Step w .closed { w with queue := w.queue.shutdown }

/-- The runs from a state: what has happened since, the latest first, and the state it has led to.
-/
inductive Run : SharedQueue κ → List (QueueEvent κ) → SharedQueue κ → Prop
  | nil {w : SharedQueue κ} : Run w [] w
  | step {w w' w'' : SharedQueue κ} {t : List (QueueEvent κ)} {e : QueueEvent κ} :
      Run w t w' → Step backoff w' e w'' → Run w (e :: t) w''

variable {backoff} {t : List (QueueEvent κ)} {e : QueueEvent κ}

theorem Run.split {w'' : SharedQueue κ} {after before : List (QueueEvent κ)}
    (h : Run backoff w (after ++ before) w'') :
    ∃ w', Run backoff w before w' ∧ Run backoff w' after w'' := by
  induction after generalizing w'' with
  | nil => exact ⟨w'', h, .nil⟩
  | cons e after ih =>
      cases h with
      | step h hs =>
          obtain ⟨w', hbefore, hafter⟩ := ih h
          exact ⟨w', hbefore, hafter.step hs⟩

/-! ## What a step does to the keys -/

/-- A step adds a key, hands one out, takes one back, or leaves every key where it is. -/
inductive Effect (w : SharedQueue κ) : QueueEvent κ → SharedQueue κ → Prop
  | add {w' : SharedQueue κ} {k : κ} :
      w'.queue = w.queue.add k → w'.held = w.held → Effect w (.added k (w.admits k)) w'
  | take {w' : SharedQueue κ} {i : Nat} {k : κ} :
      w.queue.get = (.key k, w'.queue) →
      w'.held = Function.update w.held i (k :: w.held i) → Effect w (.took i k) w'
  | release {w' : SharedQueue κ} {i : Nat} {k : κ} :
      k ∈ w.held i → w'.queue = w.queue.done k →
      w'.held = Function.update w.held i ((w.held i).erase k) → Effect w (.released i k) w'
  | rest {w' : SharedQueue κ} {e : QueueEvent κ} :
      (∀ k marked, e ≠ .added k marked) → (∀ i k, e ≠ .took i k) → (∀ i k, e ≠ .released i k) →
      w'.queue.waiting = w.queue.waiting → w'.queue.dirty = w.queue.dirty →
      w'.queue.processing = w.queue.processing → w'.held = w.held → Effect w e w'

theorem Step.effect (h : Step backoff w e w') : Effect w e w' := by
  cases h with
  | add => exact .add rfl rfl
  | addNow _ hzero => exact .add (by rw [WorkQueue.addAfter_of_isZero hzero]) rfl
  | fire _ => exact .add rfl rfl
  | take hget => exact .take hget rfl
  | release hk => exact .release hk rfl rfl
  | ask | count | forget | close =>
      exact .rest nofun nofun nofun rfl rfl rfl rfl
  | @putOff d _ hlater =>
      have hq := WorkQueue.fst_addAfter_of_not_isZero (q := w.queue) (k := d.key) hlater
      exact .rest nofun nofun nofun (congrArg _ hq) (congrArg _ hq) (congrArg _ hq) rfl
  | miss hget hne =>
      have hq := WorkQueue.get_eq_of_ne_key hget hne
      exact .rest nofun nofun nofun (congrArg _ hq) (congrArg _ hq) (congrArg _ hq) rfl

/-- The queue is closed by being closed, and stays so. -/
theorem Step.closed_iff (h : Step backoff w e w') :
    w'.queue.closed = true ↔ e = .closed ∨ w.queue.closed = true := by
  cases h with
  | add | fire _ => simp [WorkQueue.closed_add]
  | addNow _ hzero => simp [WorkQueue.addAfter_of_isZero hzero]
  | putOff _ hlater => simp [WorkQueue.fst_addAfter_of_not_isZero hlater]
  | take hget => simp [WorkQueue.closed_get hget]
  | miss hget hne => simp [WorkQueue.get_eq_of_ne_key hget hne]
  | close => simp [WorkQueue.shutdown]
  | ask | count | forget | release _ => exact ⟨.inr, fun h => h.resolve_left nofun⟩

theorem Run.closed_iff (h : Run backoff start t w) : w.queue.closed = true ↔ .closed ∈ t := by
  induction h with
  | nil => simp [start, WorkQueue.empty]
  | step _ hs ih => rw [hs.closed_iff, ih, List.mem_cons, eq_comm]

/-! ## Every step keeps order -/

theorem Orderly.take {i : Nat} (h : w.Orderly) (hget : w.queue.get = (.key k, w'.queue))
    (hw : w'.held = Function.update w.held i (k :: w.held i)) : w'.Orderly where
  heldBy := h.heldBy.take hget fun _ _ => (mem_held_take hw).mp
  holder := by
    intro a ha
    rcases (WorkQueue.mem_processing_get hget).mp ha with rfl | ha
    · exact ⟨i, (mem_held_take hw).mpr (.inl ⟨rfl, rfl⟩)⟩
    · obtain ⟨j, hj⟩ := h.holder a ha
      exact ⟨j, (mem_held_take hw).mpr (.inr hj)⟩
  once := by
    have hfree : k ∉ w.held i := fun hk =>
      h.heldBy.queue.notMem_processing_of_get hget (h.heldBy.held i k hk)
    rw [hw]
    refine (Function.forall_update_iff w.held fun _ ks => ks.Nodup).mpr ?_
    exact ⟨List.nodup_cons.mpr ⟨hfree, h.once i⟩, fun j _ => h.once j⟩

theorem Orderly.mem_held_release {i j : Nat} {a : κ} (h : w.Orderly) (hk : k ∈ w.held i)
    (hw : w'.held = Function.update w.held i ((w.held i).erase k)) :
    a ∈ w'.held j ↔ a ∈ w.held j ∧ a ≠ k := by
  rw [hw]
  by_cases hj : j = i
  · subst hj
    rw [Function.update_self, (h.once j).mem_erase_iff, and_comm]
  · rw [Function.update_of_ne hj]
    refine ⟨fun ha => ⟨ha, ?_⟩, And.left⟩
    rintro rfl
    exact hj (h.heldBy.alone j i a ha hk)

theorem Orderly.release {i : Nat} (h : w.Orderly) (hk : k ∈ w.held i)
    (hq : w'.queue = w.queue.done k)
    (hw : w'.held = Function.update w.held i ((w.held i).erase k)) : w'.Orderly where
  heldBy := by
    rw [hq]
    exact h.heldBy.release hk fun _ _ => (h.mem_held_release hk hw).mp
  holder := by
    intro a ha
    rw [hq, WorkQueue.mem_processing_done] at ha
    obtain ⟨j, hj⟩ := h.holder a ha.1
    exact ⟨j, (h.mem_held_release hk hw).mpr ⟨hj, ha.2⟩⟩
  once := by
    rw [hw]
    refine (Function.forall_update_iff w.held fun _ ks => ks.Nodup).mpr ?_
    exact ⟨(h.once i).erase k, fun j _ => h.once j⟩

theorem Orderly.step (h : w.Orderly) (hs : Step backoff w e w') : w'.Orderly := by
  cases hs.effect with
  | add hq hw =>
      refine h.congr ?_ ?_ hw
      · rw [hq]
        exact h.heldBy.queue.add _
      · rw [hq, WorkQueue.processing_add]
  | take hget hw => exact h.take hget hw
  | release hk hq hw => exact h.release hk hq hw
  | rest _ _ _ hwaiting hdirty hp hw => exact h.congr (h.heldBy.queue.congr hwaiting hdirty hp) hp hw

theorem Run.orderly (h : Run backoff w t w') (hw : w.Orderly) : w'.Orderly := by
  induction h with
  | nil => exact hw
  | step _ hs ih => exact ih.step hs

/-- In every state that a run leads to, each key waits at most once and not while it is held, the
dirty keys are those that wait and those that were added while they are held, and no key is held by
two workers, or twice by one. -/
theorem sound_of_run (h : Run backoff start t w) :
    w.queue.Sound ∧
    (∀ k, k ∈ w.queue.processing ↔ ∃ i, k ∈ w.held i) ∧
    (∀ i j k, k ∈ w.held i → k ∈ w.held j → i = j) ∧
    ∀ i, (w.held i).Nodup := by
  have hw : w.Orderly := h.orderly orderly_start
  exact ⟨hw.heldBy.queue, fun _ => hw.mem_processing_iff, hw.heldBy.alone, hw.once⟩

/-- A key is put off after a failure, added when its time has come while a worker still holds it,
and taken by another worker when the first one has released it. -/
theorem sound_of_run_handover :
    ∃ t, ∃ w : SharedQueue String, Run .default start t w ∧ "echo" ∈ w.held 1 ∧
      w.queue.Sound ∧
      (∀ k, k ∈ w.queue.processing ↔ ∃ i, k ∈ w.held i) ∧
      (∀ i j k, k ∈ w.held i → k ∈ w.held j → i = j) ∧
      ∀ i, (w.held i).Nodup := by
  have h₀ : Run .default (start : SharedQueue String) [] start := .nil
  have h₁ := h₀.step (.add (k := "echo"))
  have h₂ := h₁.step (.take (i := 0) rfl)
  have h₃ := h₂.step (.count (k := "echo"))
  have h₄ := h₃.step (.putOff List.mem_cons_self (by decide))
  have h₅ := h₄.step (.fire List.mem_cons_self)
  have h₆ := h₅.step (.release (i := 0) (k := "echo") List.mem_cons_self)
  have h := h₆.step (.take (i := 1) rfl)
  exact ⟨_, _, h, List.mem_cons_self, sound_of_run h⟩

end SharedQueue

end FaasOperator
