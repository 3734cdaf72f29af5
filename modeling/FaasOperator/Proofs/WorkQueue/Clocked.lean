/-
# `FaasOperator.Proofs.WorkQueue.Clocked` — a work queue under a clock, whoever uses it

Any number of callers add keys, at once, after a delay, or after the delay that the failures of a
key call for; workers take keys and release them; and time passes.  A step is what one of them does
while it has the queue to itself, so that anything can happen, and time can pass, between the count
of a failure and the add that follows from it.

An add that was put off is made when it is due, or at any time later; nothing else is supposed of
the timers.  Nothing is supposed of who releases which key either, but the event of a release tells
whether a worker had the key.  Nobody closes the queue.

The operations of the queue under its own clock are runs of these steps: `run_addAfter`,
`run_addRateLimited` and `run_fire`.
-/
import Mathlib.Data.List.TakeWhile
import FaasOperator.Proofs.Backoff
import FaasOperator.Proofs.WorkQueue.Pool

namespace FaasOperator

/-- A queue and the time, and how far those are who use it. -/
structure ClockedQueue (κ : Type) where
  queue : WorkQueue κ
  /-- The time, in nanoseconds. -/
  now : Nat
  /-- The add with a delay that each caller is about to make. -/
  asked : Nat → Option (Delayed κ)
  /-- Adds that wait for their time. -/
  delayed : List (Agenda.Entry κ)

inductive ClockEvent (κ : Type) where
  | added (key : κ)
  /-- A caller began an add with a delay. -/
  | asked (caller : Nat) (d : Delayed κ)
  /-- A caller counted a failure, and began an add with the delay that follows from it. -/
  | counted (caller : Nat) (d : Delayed κ)
  /-- A caller made its add, or put it off until it is due. -/
  | scheduled (caller : Nat) (d : Delayed κ) (due : Nat)
  /-- An add that had been put off was made. -/
  | fired (e : Agenda.Entry κ)
  | forgot (key : κ)
  | took (key : κ)
  /-- A worker asked for a key and got none. -/
  | missed
  /-- A key was released, which a worker `held`, or did not. -/
  | released (key : κ) (held : Bool)
  | passed (nanos : Nat)

namespace ClockEvent

variable {κ : Type}

/-- An add of the key was made. -/
def Adds (k : κ) : ClockEvent κ → Prop
  | .added a => a = k
  | .scheduled _ d _ => d.delay.isZero = true ∧ d.key = k
  | .fired e => e.action = k
  | _ => False

def nanos : ClockEvent κ → Nat
  | .passed n => n
  | _ => 0

/-- The time that has passed in all. -/
def elapsed : List (ClockEvent κ) → Nat
  | [] => 0
  | e :: t => e.nanos + elapsed t

end ClockEvent

namespace ClockedQueue

open ClockEvent (elapsed)

variable {κ : Type}

def start : ClockedQueue κ := ⟨.empty, 0, fun _ => none, []⟩

variable [DecidableEq κ]

/-- The caller makes its add, or puts it off until it is due. -/
def schedule (w : ClockedQueue κ) (i : Nat) (d : Delayed κ) : ClockedQueue κ :=
  let (queue, later) := w.queue.addAfter d.key d.delay
  { w with
    queue := queue
    asked := Function.update w.asked i none
    delayed := match later with
      | none => w.delayed
      | some d => Agenda.place ⟨w.now + d.delay.nanos, d.key⟩ w.delayed }

variable (backoff : Backoff)

/-- What can happen next. -/
inductive Step : ClockedQueue κ → ClockEvent κ → ClockedQueue κ → Prop
  | add {w : ClockedQueue κ} {k : κ} : Step w (.added k) { w with queue := w.queue.add k }
  | ask {w : ClockedQueue κ} {i : Nat} {d : Delayed κ} :
      w.asked i = none →
      Step w (.asked i d) { w with asked := Function.update w.asked i (some d) }
  | count {w : ClockedQueue κ} {i : Nat} {k : κ} :
      w.asked i = none →
      Step w (.counted i ⟨k, backoff.delay (w.queue.numRequeues k)⟩)
        { w with
          queue := w.queue.countFailure k
          asked := Function.update w.asked i (some ⟨k, backoff.delay (w.queue.numRequeues k)⟩) }
  | schedule {w : ClockedQueue κ} {i : Nat} {d : Delayed κ} :
      w.asked i = some d → Step w (.scheduled i d (w.now + d.delay.nanos)) (w.schedule i d)
  | fire {w : ClockedQueue κ} {e : Agenda.Entry κ} :
      e ∈ w.delayed → e.due ≤ w.now →
      Step w (.fired e)
        { w with queue := w.queue.add e.action, delayed := w.delayed.erase e }
  | forget {w : ClockedQueue κ} {k : κ} :
      Step w (.forgot k) { w with queue := w.queue.forget k }
  | take {w : ClockedQueue κ} {k : κ} {q : WorkQueue κ} :
      w.queue.get = (.key k, q) → Step w (.took k) { w with queue := q }
  | miss {w : ClockedQueue κ} {answer : Take κ} {q : WorkQueue κ} :
      w.queue.get = (answer, q) → (∀ k, answer ≠ .key k) → Step w .missed { w with queue := q }
  | release {w : ClockedQueue κ} {k : κ} :
      Step w (.released k (decide (k ∈ w.queue.processing))) { w with queue := w.queue.done k }
  | pass {w : ClockedQueue κ} {n : Nat} : Step w (.passed n) { w with now := w.now + n }

/-- The runs from a state: what has happened since, the latest first, and the state it has led to.
-/
inductive Run : ClockedQueue κ → List (ClockEvent κ) → ClockedQueue κ → Prop
  | nil {w : ClockedQueue κ} : Run w [] w
  | step {w w' w'' : ClockedQueue κ} {t : List (ClockEvent κ)} {e : ClockEvent κ} :
      Run w t w' → Step backoff w' e w'' → Run w (e :: t) w''

variable {backoff} {w w' w'' : ClockedQueue κ} {t t' : List (ClockEvent κ)} {e : ClockEvent κ}
  {k : κ} {i : Nat}

theorem Run.split {after before : List (ClockEvent κ)} (h : Run backoff w (after ++ before) w'') :
    ∃ w', Run backoff w before w' ∧ Run backoff w' after w'' := by
  induction after generalizing w'' with
  | nil => exact ⟨w'', h, .nil⟩
  | cons e after ih =>
      cases h with
      | step h hs =>
          obtain ⟨w', hbefore, hafter⟩ := ih h
          exact ⟨w', hbefore, hafter.step hs⟩

theorem Run.append (h : Run backoff w t w') (h' : Run backoff w' t' w'') :
    Run backoff w (t' ++ t) w'' := by
  induction h' with
  | nil => exact h
  | step _ hs ih => exact ih.step hs

/-! ## What a step does -/

theorem queue_schedule (w : ClockedQueue κ) (i : Nat) (d : Delayed κ) :
    (w.schedule i d).queue = if d.delay.isZero then w.queue.add d.key else w.queue := by
  cases hzero : d.delay.isZero with
  | true => exact congrArg Prod.fst (WorkQueue.addAfter_of_isZero hzero)
  | false => exact WorkQueue.fst_addAfter_of_not_isZero hzero

theorem delayed_schedule (w : ClockedQueue κ) (i : Nat) (d : Delayed κ) :
    (w.schedule i d).delayed = if d.delay.isZero || w.queue.closed then w.delayed
      else Agenda.place ⟨w.now + d.delay.nanos, d.key⟩ w.delayed := by
  unfold schedule WorkQueue.addAfter
  cases d.delay.isZero with
  | true => rfl
  | false => cases w.queue.closed <;> rfl

@[simp] theorem asked_schedule (w : ClockedQueue κ) (i : Nat) (d : Delayed κ) :
    (w.schedule i d).asked = Function.update w.asked i none := rfl

@[simp] theorem closed_schedule (w : ClockedQueue κ) (i : Nat) (d : Delayed κ) :
    (w.schedule i d).queue.closed = w.queue.closed := by
  rw [queue_schedule]
  split
  · exact WorkQueue.closed_add ..
  · rfl

@[simp] theorem failures_schedule (w : ClockedQueue κ) (i : Nat) (d : Delayed κ) :
    (w.schedule i d).queue.failures = w.queue.failures := by
  rw [queue_schedule]
  split
  · exact WorkQueue.failures_add ..
  · rfl

theorem Step.now_eq (h : Step backoff w e w') : w'.now = e.nanos + w.now := by
  cases h with
  | pass => exact Nat.add_comm ..
  | add | ask _ | count _ | schedule _ | fire _ _ | forget | take _ | miss _ _ | release =>
      exact (Nat.zero_add _).symm

theorem Run.now_eq (h : Run backoff w t w') : w'.now = elapsed t + w.now := by
  induction h with
  | nil => exact (Nat.zero_add _).symm
  | step _ hs ih =>
      rw [hs.now_eq, ih, elapsed, Nat.add_assoc]

theorem Step.closed_eq (h : Step backoff w e w') : w'.queue.closed = w.queue.closed := by
  cases h with
  | add | fire _ _ => exact WorkQueue.closed_add ..
  | schedule _ => exact closed_schedule ..
  | take hget => exact WorkQueue.closed_get hget
  | miss hget hne => exact congrArg _ (WorkQueue.get_eq_of_ne_key hget hne)
  | ask _ | count _ | forget | release | pass => rfl

theorem Run.closed_eq (h : Run backoff w t w') : w'.queue.closed = w.queue.closed := by
  induction h with
  | nil => rfl
  | step _ hs ih => rw [hs.closed_eq, ih]

/-! ## Which keys are in it -/

/-- The key is dirty or in line. -/
def Lists (w : ClockedQueue κ) (k : κ) : Prop := k ∈ w.queue.dirty ∨ k ∈ w.queue.waiting

theorem lists_of_add {a : κ} (hq : w'.queue = w.queue.add a) (h : w'.Lists k) :
    w.Lists k ∨ a = k := by
  unfold Lists at h
  rw [hq] at h
  rcases WorkQueue.add_cases a w.queue with ⟨-, he⟩ | ⟨-, -, -, he⟩ | ⟨-, -, -, he⟩
  · rw [he] at h
    exact .inl h
  · rw [he] at h
    rcases h with h | h
    · exact (List.mem_cons.mp h).elim (fun h => .inr h.symm) fun h => .inl (.inl h)
    · exact .inl (.inr h)
  · rw [he] at h
    rcases h with h | h
    · exact (List.mem_cons.mp h).elim (fun h => .inr h.symm) fun h => .inl (.inl h)
    · rcases List.mem_append.mp h with h | h
      · exact .inl (.inr h)
      · exact .inr (List.mem_singleton.mp h).symm

/-- A key gets dirty, or in line, only by an add. -/
theorem Step.lists (h : Step backoff w e w') (hk : w'.Lists k) : w.Lists k ∨ e.Adds k := by
  cases h with
  | add => exact lists_of_add rfl hk
  | fire _ _ => exact lists_of_add rfl hk
  | @schedule i d _ =>
      have hq := w.queue_schedule i d
      split at hq
      · rename_i hzero
        exact (lists_of_add hq hk).imp id fun h => ⟨hzero, h⟩
      · rw [Lists, hq] at hk
        exact .inl hk
  | take hget =>
      refine .inl (hk.imp (fun h => ((WorkQueue.mem_dirty_get hget).mp h).1) fun h => ?_)
      obtain ⟨ks, hwaiting, rfl⟩ := WorkQueue.get_eq_key hget
      exact hwaiting ▸ List.mem_cons_of_mem _ h
  | miss hget hne =>
      rw [WorkQueue.get_eq_of_ne_key hget hne] at hk
      exact .inl hk
  | @release a =>
      -- a key that is put in line by its release was dirty
      refine .inl (hk.elim .inl fun h => ?_)
      replace h : k ∈ if w.queue.dirty.contains a then w.queue.waiting ++ [a]
        else w.queue.waiting := h
      split at h
      · rename_i ha
        rcases List.mem_append.mp h with h | h
        · exact .inr h
        · exact .inl (List.mem_singleton.mp h ▸ List.contains_iff_mem.mp ha)
      · exact .inr h
  | ask _ | count _ | forget | pass => exact .inl hk

theorem Step.mem_dirty_of_adds (h : Step backoff w e w') (hopen : w.queue.closed = false)
    (hk : e.Adds k) : k ∈ w'.queue.dirty := by
  cases h with
  | add => exact WorkQueue.mem_dirty_add.mpr (.inr ⟨hk.symm, hopen⟩)
  | fire _ _ => exact WorkQueue.mem_dirty_add.mpr (.inr ⟨hk.symm, hopen⟩)
  | @schedule i d _ =>
      obtain ⟨hzero, rfl⟩ := hk
      rw [queue_schedule, if_pos hzero]
      exact WorkQueue.mem_dirty_add.mpr (.inr ⟨rfl, hopen⟩)
  | ask _ | count _ | forget | take _ | miss _ _ | release | pass => exact hk.elim

theorem Step.keeps_dirty (h : Step backoff w e w') (hk : k ∈ w.queue.dirty) :
    e = .took k ∨ k ∈ w'.queue.dirty := by
  cases h with
  | add | fire _ _ => exact .inr (WorkQueue.mem_dirty_add.mpr (.inl hk))
  | schedule _ =>
      rw [queue_schedule]
      split
      · exact .inr (WorkQueue.mem_dirty_add.mpr (.inl hk))
      · exact .inr hk
  | @take a _ hget =>
      by_cases ha : k = a
      · exact .inl (by rw [ha])
      · exact .inr ((WorkQueue.mem_dirty_get hget).mpr ⟨hk, ha⟩)
  | miss hget hne =>
      rw [WorkQueue.get_eq_of_ne_key hget hne]
      exact .inr hk
  | ask _ | count _ | forget | release | pass => exact .inr hk

theorem Run.keeps_dirty (h : Run backoff w t w') (hk : k ∈ w.queue.dirty) :
    .took k ∈ t ∨ k ∈ w'.queue.dirty := by
  induction h with
  | nil => exact .inr hk
  | step _ hs ih =>
      rcases ih with htaken | hk
      · exact .inl (List.mem_cons_of_mem _ htaken)
      · rcases hs.keeps_dirty hk with rfl | hk
        · exact .inl List.mem_cons_self
        · exact .inr hk

/-- The queue stays sound as long as keys are released only while a worker holds them. -/
theorem Step.sound (h : Step backoff w e w') (hq : w.queue.Sound)
    (he : ∀ j, e ≠ .released j false) : w'.queue.Sound := by
  cases h with
  | add | fire _ _ => exact hq.add _
  | schedule _ =>
      rw [queue_schedule]
      split
      · exact hq.add _
      · exact hq
  | take hget => exact hq.get hget
  | miss hget hne =>
      rw [WorkQueue.get_eq_of_ne_key hget hne]
      exact hq
  | @release a =>
      by_cases ha : a ∈ w.queue.processing
      · exact hq.done ha
      · exact absurd (by rw [decide_eq_false ha]) (he a)
  | ask _ | pass => exact hq
  | count _ | forget => exact hq.congr rfl rfl rfl

theorem Run.sound (h : Run backoff w t w') (hq : w.queue.Sound)
    (ht : ∀ j, .released j false ∉ t) : w'.queue.Sound := by
  induction h with
  | nil => exact hq
  | step _ hs ih =>
      refine hs.sound (ih fun j hj => ht j (List.mem_cons_of_mem _ hj)) fun j he => ?_
      exact ht j (he ▸ List.mem_cons_self)

/-! ## The queue under its own clock

Its operations are such runs.  The rules here put an add off for the whole of its delay, while the
agenda of the queue cuts what is longer than `Agenda.longestDelay`; so the delay, or the longest one
of the backoff, is supposed to be no longer than that.  Thirty years are more than anybody waits for
a retry, and nothing else of this module is about the agenda. -/

/-- The queue under its own clock, between its operations. -/
def ofTimed (q : TimedQueue κ) : ClockedQueue κ :=
  ⟨q.queue, q.agenda.now, fun _ => none, q.agenda.entries⟩

theorem schedule_ofTimed (q : TimedQueue κ) (i : Nat) {d : Delayed κ}
    (hd : d.delay.nanos ≤ Agenda.longestDelay) :
    schedule { ofTimed q with asked := Function.update (fun _ => none) i (some d) } i d =
      ofTimed (q.addAfter d.key d.delay) := by
  have hasked : Function.update (Function.update (fun _ => none) i (some d)) i none =
      fun _ => none := by
    rw [Function.update_idem, Function.update_eq_self_iff]
  unfold schedule TimedQueue.addAfter TimedQueue.withDelayed WorkQueue.addAfter ofTimed
  rw [hasked]
  by_cases hzero : d.delay.isZero = true
  · simp only [hzero, if_true]
  · by_cases hclosed : q.queue.closed = true
    · simp only [hzero, hclosed, if_true, if_false, Bool.false_eq_true]
    · simp only [hzero, hclosed, if_false, Bool.false_eq_true, Agenda.scheduleIn,
        Agenda.scheduleAt, Nat.min_eq_left hd]

theorem run_addAfter (q : TimedQueue κ) (i : Nat) {d : Delayed κ}
    (hd : d.delay.nanos ≤ Agenda.longestDelay) :
    Run backoff (ofTimed q) [.scheduled i d (q.agenda.now + d.delay.nanos), .asked i d]
      (ofTimed (q.addAfter d.key d.delay)) := by
  rw [← schedule_ofTimed q i hd]
  exact (Run.nil.step (.ask rfl)).step (.schedule (Function.update_self ..))

/-- The queue's rate-limited add is a count and a schedule, with no time between them, if no delay of
the backoff is long enough to be cut. -/
theorem run_addRateLimited (q : TimedQueue κ) (i : Nat) (k : κ)
    (hmax : q.backoff.max.nanos ≤ Agenda.longestDelay) :
    let d : Delayed κ := ⟨k, q.backoff.delay (q.queue.numRequeues k)⟩
    Run q.backoff (ofTimed q) [.scheduled i d (q.agenda.now + d.delay.nanos), .counted i d]
      (ofTimed (q.addRateLimited k)) := by
  intro d
  have hd : d.delay.nanos ≤ Agenda.longestDelay :=
    Nat.le_trans (q.backoff.nanos_delay_le _) hmax
  rw [← WorkerPool.addAfter_mapQueue_countFailure]
  have h := schedule_ofTimed (q.mapQueue (·.countFailure k)) i hd
  rw [← h]
  exact (Run.nil.step (.count rfl)).step (.schedule (Function.update_self ..))

theorem run_fires {due rest : List (Agenda.Entry κ)} (hw : w.delayed = due ++ rest)
    (hdue : ∀ e ∈ due, e.due ≤ w.now) :
    ∃ t, Run backoff w t
      { w with queue := w.queue.addAll (due.map (·.action)), delayed := rest } := by
  induction due generalizing w with
  | nil => exact ⟨[], by rw [← List.nil_append rest, ← hw]; exact .nil⟩
  | cons e due ih =>
      obtain ⟨he, hdue⟩ := List.forall_mem_cons.mp hdue
      have hmem : e ∈ w.delayed := hw ▸ List.mem_cons_self
      have herase : w.delayed.erase e = due ++ rest := by
        rw [hw, List.cons_append, List.erase_cons_head]
      obtain ⟨t, ht⟩ := ih (w := { w with
        queue := w.queue.add e.action, delayed := w.delayed.erase e }) herase hdue
      exact ⟨_, (Run.nil.step (.fire hmem he)).append ht⟩

theorem run_fire (q : TimedQueue κ) (n : Nat) :
    ∃ t, Run backoff (ofTimed q) t (ofTimed (q.fire n)) := by
  have hpass : Run backoff (ofTimed q) [.passed n] _ := Run.nil.step .pass
  have hsplit := q.agenda.entries.takeWhile_append_dropWhile
    (p := fun e => decide (e.due ≤ q.agenda.now + n))
  have hdue : ∀ e ∈ q.agenda.entries.takeWhile fun e => decide (e.due ≤ q.agenda.now + n),
      e.due ≤ q.agenda.now + n := by
    intro e he
    have hdecided := List.mem_takeWhile_imp he
    exact of_decide_eq_true hdecided
  obtain ⟨t, ht⟩ := run_fires (w := { ofTimed q with now := q.agenda.now + n }) hsplit.symm hdue
  exact ⟨_, hpass.append ht⟩

end ClockedQueue

end FaasOperator
