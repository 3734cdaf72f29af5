/-
# `FaasOperator.Proofs.WorkQueue.Pool` — workers that empty a work queue under a clock

Each worker takes a key, reconciles it, tells the queue how that ended and releases the key, over
and over; meanwhile anybody adds keys, and the adds that were put off are made once they are due, at
that time or later.  A step is what one of them does while it has the queue to itself, so that a
failure is counted in one step and its retry is put off in another.

The steps of one worker make up the program's operations: count and retry its `addRateLimited`
(`addAfter_mapQueue_countFailure`), what comes between reconcile and release its `settle`
(`mapQueue_forget_eq_settle`, `addRateLimited_eq_settle`), and with the release its `release`
(`mapQueue_done_settle`).  So from a worker that is at work on a key there are runs to the very
state in which `release` leaves the queue, whatever the result (`Run.endPass_of_ok`,
`Run.endPass_of_error`).

Nothing is supposed of the results of the reconciles.  The clock stands still between the two halves
of a retry, which do not wait for anything.
-/
import Mathlib.Logic.Function.Basic
import FaasOperator.Controller
import FaasOperator.Proofs.WorkQueue.Sound
import FaasOperator.WorkQueue.Timed

namespace FaasOperator

/-- How far a worker of the pool is with a key. -/
inductive PoolWorker (κ : Type) where
  | idle
  /-- The reconcile is under way. -/
  | working (key : κ)
  /-- The reconcile has failed; this is to be added again. -/
  | failed (retry : Delayed κ)
  /-- The queue knows how the reconcile ended. -/
  | settled (key : κ)

/-- The key that a worker holds. -/
def PoolWorker.key? {κ : Type} : PoolWorker κ → Option κ
  | .idle => none
  | .working key | .settled key => some key
  | .failed retry => some retry.key

inductive PoolEvent (κ : Type) where
  | added (key : κ)
  /-- An add that had been put off was made. -/
  | fired (key : κ)
  | took (worker : Nat) (key : κ)
  /-- The reconcile of the key succeeded, and its failures are forgotten. -/
  | succeeded (worker : Nat) (key : κ)
  /-- The reconcile of the key failed at this time, and one more failure is counted. -/
  | failed (worker : Nat) (key : κ) (time : Nat)
  /-- The key was added again, or the add put off. -/
  | retried (worker : Nat) (key : κ)
  | released (worker : Nat) (key : κ)
  /-- So many nanoseconds passed. -/
  | passed (nanos : Nat)
  | closed

/-- The key changed hands: it was taken or released. -/
def PoolEvent.Moves {κ : Type} (k : κ) : PoolEvent κ → Prop
  | .took _ a | .released _ a => a = k
  | _ => False

/-- A queue under a clock, and its workers. -/
structure WorkerPool (κ : Type) where
  timed : TimedQueue κ
  workers : Nat → PoolWorker κ

namespace WorkerPool

variable {κ : Type}

def start (backoff : Backoff) : WorkerPool κ := ⟨.empty backoff, fun _ => .idle⟩

abbrev queue (w : WorkerPool κ) : WorkQueue κ := w.timed.queue

/-- The adds that wait for their time. -/
abbrev delayed (w : WorkerPool κ) : List (Agenda.Entry κ) := w.timed.agenda.entries

abbrev now (w : WorkerPool κ) : Nat := w.timed.agenda.now

def setWorker (w : WorkerPool κ) (i : Nat) (s : PoolWorker κ) : WorkerPool κ :=
  { w with workers := Function.update w.workers i s }

variable {w w' : WorkerPool κ} {t : List (PoolEvent κ)} {e : PoolEvent κ} {k : κ} {i j : Nat}

theorem workers_setWorker_self (w : WorkerPool κ) (i : Nat) (s : PoolWorker κ) :
    (w.setWorker i s).workers i = s :=
  Function.update_self ..

theorem workers_setWorker_of_ne (w : WorkerPool κ) (h : j ≠ i) (s : PoolWorker κ) :
    (w.setWorker i s).workers j = w.workers j :=
  Function.update_of_ne h ..

/-! ## Who holds what -/

/-- The queue is sound, and the workers hold what it has handed out, one worker each key. -/
abbrev Orderly (w : WorkerPool κ) : Prop :=
  w.queue.HeldBy fun i k => (w.workers i).key? = some k

theorem orderly_start (backoff : Backoff) : (start backoff : WorkerPool κ).Orderly :=
  ⟨WorkQueue.sound_empty, nofun, nofun⟩

/-- A worker that gets on with its key leaves it at that who holds what. -/
theorem key?_setWorker {s : PoolWorker κ} (h : s.key? = (w.workers i).key?) (j : Nat) :
    ((w.setWorker i s).workers j).key? = (w.workers j).key? := by
  by_cases hj : j = i
  · rw [hj, workers_setWorker_self, h]
  · rw [workers_setWorker_of_ne w hj]

theorem Orderly.congr (h : w.Orderly) (hq : w'.queue.Sound)
    (hp : w'.queue.processing = w.queue.processing)
    (hw : ∀ j, (w'.workers j).key? = (w.workers j).key?) : w'.Orderly where
  queue := hq
  held := by
    intro i k hi
    rw [hp]
    exact h.held i k (hw i ▸ hi)
  alone := by
    intro i j k hi hj
    exact h.alone i j k (hw i ▸ hi) (hw j ▸ hj)

theorem key?_take {a : κ} (hj : ((w.setWorker i (.working k)).workers j).key? = some a) :
    (j = i ∧ a = k) ∨ (w.workers j).key? = some a := by
  by_cases hji : j = i
  · rw [hji, workers_setWorker_self] at hj
    exact .inl ⟨hji, (Option.some.inj hj).symm⟩
  · rw [workers_setWorker_of_ne w hji] at hj
    exact .inr hj

theorem Orderly.key?_release (h : w.Orderly) (hi : (w.workers i).key? = some k) {a : κ}
    (hj : ((w.setWorker i .idle).workers j).key? = some a) :
    (w.workers j).key? = some a ∧ a ≠ k := by
  by_cases hji : j = i
  · rw [hji, workers_setWorker_self] at hj
    cases hj
  · rw [workers_setWorker_of_ne w hji] at hj
    refine ⟨hj, ?_⟩
    rintro rfl
    exact hji (h.alone j i a hj hi)

/-- A pass over a key: a worker took it, and nobody has taken or released it since. -/
structure Pass (t : List (PoolEvent κ)) (i : Nat) (k : κ) (since : List (PoolEvent κ)) : Prop where
  split : ∃ before, t = since ++ .took i k :: before
  quiet : ∀ e ∈ since, ¬e.Moves k

theorem Pass.cons {since : List (PoolEvent κ)} (h : Pass t i k since) (he : ¬e.Moves k) :
    Pass (e :: t) i k (e :: since) where
  split := by
    obtain ⟨before, rfl⟩ := h.split
    exact ⟨before, rfl⟩
  quiet := List.forall_mem_cons.mpr ⟨he, h.quiet⟩

/-! ## Steps and runs -/

variable [DecidableEq κ]

/-- What can happen next. -/
inductive Step : WorkerPool κ → PoolEvent κ → WorkerPool κ → Prop
  | add {w : WorkerPool κ} {k : κ} :
      Step w (.added k) { w with timed := w.timed.mapQueue (·.add k) }
  | fire {w : WorkerPool κ} {e : Agenda.Entry κ} :
      e ∈ w.delayed → e.due ≤ w.now →
      Step w (.fired e.action)
        { w with
          timed := { w.timed.mapQueue (·.add e.action) with
            agenda := { w.timed.agenda with entries := w.delayed.erase e } } }
  | take {w : WorkerPool κ} {i : Nat} {k : κ} {q : WorkQueue κ} :
      w.workers i = .idle → w.queue.get = (.key k, q) →
      Step w (.took i k)
        { w.setWorker i (.working k) with timed := w.timed.mapQueue fun _ => q }
  | succeed {w : WorkerPool κ} {i : Nat} {k : κ} :
      w.workers i = .working k →
      Step w (.succeeded i k)
        { w.setWorker i (.settled k) with timed := w.timed.mapQueue (·.forget k) }
  | fail {w : WorkerPool κ} {i : Nat} {k : κ} :
      w.workers i = .working k →
      Step w (.failed i k w.now)
        { w.setWorker i (.failed ⟨k, w.timed.backoff.delay (w.queue.numRequeues k)⟩) with
          timed := w.timed.mapQueue (·.countFailure k) }
  | retry {w : WorkerPool κ} {i : Nat} {d : Delayed κ} :
      w.workers i = .failed d →
      Step w (.retried i d.key)
        { w.setWorker i (.settled d.key) with timed := w.timed.addAfter d.key d.delay }
  | release {w : WorkerPool κ} {i : Nat} {k : κ} :
      w.workers i = .settled k →
      Step w (.released i k)
        { w.setWorker i .idle with timed := w.timed.mapQueue (·.done k) }
  | pass {w : WorkerPool κ} {nanos : Nat} :
      (∀ i d, w.workers i ≠ .failed d) →
      Step w (.passed nanos)
        { w with timed := { w.timed with agenda := w.timed.agenda.advance nanos } }
  | close {w : WorkerPool κ} :
      Step w .closed { w with timed := w.timed.mapQueue (·.shutdown) }

/-- The runs: what has happened since the start, the latest first, and the state after it. -/
inductive Run (backoff : Backoff) : List (PoolEvent κ) → WorkerPool κ → Prop
  | start : Run backoff [] (start backoff)
  | step {t : List (PoolEvent κ)} {w w' : WorkerPool κ} {e : PoolEvent κ} :
      Run backoff t w → Step w e w' → Run backoff (e :: t) w'

variable {backoff : Backoff}

theorem Run.of_append {after before : List (PoolEvent κ)} (h : Run backoff (after ++ before) w) :
    ∃ w₀, Run backoff before w₀ := by
  induction after generalizing w with
  | nil => exact ⟨w, h⟩
  | cons e after ih =>
      cases h with
      | step h _ => exact ih h

/-! ## What the steps of a worker make up

Between its reconcile and the release of its key a worker does what the controller's `settle` says,
and with the release its `release`, whose delayed add goes to the agenda. -/

/-- The two steps of a retry make up the rate-limited add of the key. -/
theorem addAfter_mapQueue_countFailure (t : TimedQueue κ) (k : κ) :
    (t.mapQueue (·.countFailure k)).addAfter k (t.backoff.delay (t.queue.numRequeues k)) =
      t.addRateLimited k := rfl

section Settle

variable {ε α : Type}

theorem mapQueue_forget_eq_settle (t : TimedQueue κ) (k : κ) (a : α) :
    t.mapQueue (·.forget k) =
      t.withDelayed (t.queue.settle t.backoff k (.ok a : Except ε α)) := rfl

theorem addRateLimited_eq_settle (t : TimedQueue κ) (k : κ) (err : ε) :
    t.addRateLimited k = t.withDelayed (t.queue.settle t.backoff k (.error err : Except ε α)) := rfl

theorem mapQueue_done_settle (t : TimedQueue κ) (k : κ) (result : Except ε α) :
    (t.withDelayed (t.queue.settle t.backoff k result)).mapQueue (·.done k) =
      t.withDelayed (t.queue.release t.backoff k result) := rfl

/-- The pool when the reconcile of the worker's key has come to a result, and the key is released. -/
def endPass (w : WorkerPool κ) (i : Nat) (k : κ) (result : Except ε α) : WorkerPool κ :=
  { w.setWorker i .idle with
    timed := w.timed.withDelayed (w.queue.release w.timed.backoff k result) }

/-- After a success the steps of a worker release its key as the controller does. -/
theorem Run.endPass_of_ok (h : Run backoff t w) (hi : w.workers i = .working k) (a : α) :
    Run backoff (.released i k :: .succeeded i k :: t) (w.endPass i k (.ok a : Except ε α)) := by
  have hsucceeded := h.step (.succeed hi)
  have hreleased := hsucceeded.step (.release (k := k) (workers_setWorker_self ..))
  have hworkers : Function.update (Function.update w.workers i (.settled k)) i .idle =
      Function.update w.workers i .idle := Function.update_idem ..
  rw [endPass, ← mapQueue_done_settle, ← mapQueue_forget_eq_settle, setWorker, ← hworkers]
  exact hreleased

/-- After a failure they do so too, with the retry that the failures of the key call for. -/
theorem Run.endPass_of_error (h : Run backoff t w) (hi : w.workers i = .working k) (err : ε) :
    Run backoff (.released i k :: .retried i k :: .failed i k w.now :: t)
      (w.endPass i k (.error err : Except ε α)) := by
  have hfailed := h.step (.fail hi)
  have hretried := hfailed.step
    (.retry (d := ⟨k, w.timed.backoff.delay (w.queue.numRequeues k)⟩) (workers_setWorker_self ..))
  have hreleased := hretried.step (.release (k := k) (workers_setWorker_self ..))
  have hworkers (d : Delayed κ) : Function.update (Function.update
      (Function.update w.workers i (.failed d)) i (.settled k)) i .idle =
        Function.update w.workers i .idle := by
    rw [Function.update_idem, Function.update_idem]
  rw [endPass, ← mapQueue_done_settle, ← addRateLimited_eq_settle,
    ← addAfter_mapQueue_countFailure, setWorker, ← hworkers]
  exact hreleased

end Settle

/-! ## What a retry does to the queue -/

/-- A retry adds the key, puts the add off, or is dropped by a closed queue. -/
theorem addAfter_cases (t : TimedQueue κ) (k : κ) (delay : Duration) :
    t.addAfter k delay = t.mapQueue (·.add k) ∨
    (t.queue.closed = true ∧ t.addAfter k delay = t) ∨
    t.addAfter k delay = { t with agenda := t.agenda.scheduleIn delay.nanos k } := by
  unfold TimedQueue.addAfter WorkQueue.addAfter
  split
  · exact .inl rfl
  · split
    · exact .inr (.inl ⟨‹_›, rfl⟩)
    · exact .inr (.inr rfl)

/-- What a retry leaves alone. -/
theorem addAfter_spec (t : TimedQueue κ) (k : κ) (delay : Duration) :
    (t.addAfter k delay).backoff = t.backoff ∧
    (t.addAfter k delay).agenda.now = t.agenda.now ∧
    (t.addAfter k delay).queue.closed = t.queue.closed ∧
    (t.addAfter k delay).queue.failures = t.queue.failures := by
  rcases addAfter_cases t k delay with h | ⟨-, h⟩ | h <;> rw [h]
  · exact ⟨rfl, rfl, WorkQueue.closed_add k t.queue, WorkQueue.failures_add k t.queue⟩
  · exact ⟨rfl, rfl, rfl, rfl⟩
  · exact ⟨rfl, rfl, rfl, rfl⟩

theorem sound_addAfter {t : TimedQueue κ} (h : t.queue.Sound) (k : κ) (delay : Duration) :
    (t.addAfter k delay).queue.Sound ∧
      (t.addAfter k delay).queue.processing = t.queue.processing := by
  rcases addAfter_cases t k delay with he | ⟨-, he⟩ | he <;> rw [he]
  · exact ⟨h.add k, WorkQueue.processing_add k t.queue⟩
  · exact ⟨h, rfl⟩
  · exact ⟨h, rfl⟩

/-! ## Every step keeps order -/

theorem Orderly.step (h : w.Orderly) (hs : Step w e w') : w'.Orderly := by
  cases hs with
  | add => exact h.congr (h.queue.add _) (WorkQueue.processing_add _ _) fun _ => rfl
  | fire _ _ => exact h.congr (h.queue.add _) (WorkQueue.processing_add _ _) fun _ => rfl
  | take _ hget => exact h.take hget fun _ _ => key?_take
  | succeed hi =>
      exact h.congr (h.queue.congr rfl rfl rfl) rfl (key?_setWorker (by rw [hi]; rfl))
  | fail hi =>
      exact h.congr (h.queue.congr rfl rfl rfl) rfl (key?_setWorker (by rw [hi]; rfl))
  | @retry i d hi =>
      obtain ⟨hsound, hp⟩ := sound_addAfter (t := w.timed) h.queue d.key d.delay
      exact h.congr hsound hp (key?_setWorker (by rw [hi]; rfl))
  | release hi =>
      exact h.release (by rw [hi]; rfl) fun _ _ => h.key?_release (by rw [hi]; rfl)
  | pass _ => exact h.congr h.queue rfl fun _ => rfl
  | close => exact h.congr (h.queue.congr rfl rfl rfl) rfl fun _ => rfl

theorem Run.orderly (h : Run backoff t w) : w.Orderly := by
  induction h with
  | start => exact orderly_start backoff
  | step _ hs ih => exact ih.step hs

/-! ## Passes -/

theorem Step.keeps_key (hs : Step w e w') (hi : (w.workers i).key? = some k)
    (he : e ≠ .released i k) : (w'.workers i).key? = some k := by
  cases hs with
  | add | fire _ _ | pass _ | close => exact hi
  | @take j a _ hj _ =>
      have hne : i ≠ j := by
        rintro rfl
        rw [hj] at hi
        cases hi
      rw [← hi]
      exact congrArg PoolWorker.key? (workers_setWorker_of_ne w hne _)
  | succeed hj => exact (key?_setWorker (by rw [hj]; rfl) i).trans hi
  | fail hj => exact (key?_setWorker (by rw [hj]; rfl) i).trans hi
  | retry hj => exact (key?_setWorker (by rw [hj]; rfl) i).trans hi
  | @release j a hj =>
      have hne : i ≠ j := by
        rintro rfl
        rw [hj] at hi
        cases hi
        exact he rfl
      rw [← hi]
      exact congrArg PoolWorker.key? (workers_setWorker_of_ne w hne _)

/-- A key that a worker holds does not change hands but by the release of that worker. -/
theorem Step.eq_released (hs : Step w e w') (hw : w.Orderly) (hi : (w.workers i).key? = some k)
    (he : e.Moves k) : e = .released i k := by
  cases hs with
  | @take j a q hj hget =>
      obtain rfl : a = k := he
      exact absurd (hw.held i a hi) (hw.queue.notMem_processing_of_get hget)
  | @release j a hj =>
      obtain rfl : a = k := he
      have hji : j = i := hw.alone j i a (by rw [hj]; rfl) hi
      rw [hji]
  | add | fire _ _ | succeed _ | fail _ | retry _ | pass _ | close => exact he.elim

theorem Run.pass_of_key? (h : Run backoff t w) (hi : (w.workers i).key? = some k) :
    ∃ since, Pass t i k since := by
  induction h with
  | start => cases hi
  | @step t w w' e h hs ih =>
      by_cases hold : (w.workers i).key? = some k
      · obtain ⟨since, hpass⟩ := ih hold
        refine ⟨e :: since, hpass.cons fun he => ?_⟩
        -- if the key had changed hands, the worker would have released it
        obtain rfl := hs.eq_released h.orderly hold he
        cases hs with
        | release hj =>
            rw [workers_setWorker_self] at hi
            cases hi
      · -- the worker has just taken the key
        cases hs with
        | @take j a _ hj _ =>
            obtain ⟨rfl, rfl⟩ := (key?_take hi).resolve_right hold
            exact ⟨[], ⟨t, rfl⟩, nofun⟩
        | add | fire _ _ | pass _ | close => exact absurd hi hold
        | succeed hj => exact absurd ((key?_setWorker (by rw [hj]; rfl) i).symm.trans hi) hold
        | fail hj => exact absurd ((key?_setWorker (by rw [hj]; rfl) i).symm.trans hi) hold
        | retry hj => exact absurd ((key?_setWorker (by rw [hj]; rfl) i).symm.trans hi) hold
        | release hj =>
            exact absurd (h.orderly.key?_release (by rw [hj]; rfl) hi).1 hold

/-- A worker that took a key is still on that pass, or has ended it by releasing the key. -/
theorem Run.pass_or_released (h : Run backoff t w) {after before : List (PoolEvent κ)}
    (ht : t = after ++ .took i k :: before) :
    ((w.workers i).key? = some k ∧ ∀ e ∈ after, ¬e.Moves k) ∨
    ∃ later since, after = later ++ .released i k :: since ∧ ∀ e ∈ since, ¬e.Moves k := by
  induction h generalizing after with
  | start => simp at ht
  | @step t w w' e h hs ih =>
      cases after with
      | nil =>
          cases ht
          cases hs with
          | take _ _ =>
              refine .inl ⟨?_, nofun⟩
              rw [workers_setWorker_self]
              rfl
      | cons e' after =>
          cases ht
          rcases ih rfl with ⟨hi, hquiet⟩ | ⟨later, since, rfl, hquiet⟩
          · by_cases he : e.Moves k
            · obtain rfl := hs.eq_released h.orderly hi he
              exact .inr ⟨[], after, rfl, hquiet⟩
            · have hne : e ≠ .released i k := by
                rintro rfl
                exact he rfl
              exact .inl ⟨hs.keeps_key hi hne, List.forall_mem_cons.mpr ⟨he, hquiet⟩⟩
          · exact .inr ⟨e :: later, since, rfl, hquiet⟩

/-- A worker that releases a key ends the pass that it is on. -/
theorem Run.pass_of_released (h : Run backoff (.released i k :: t) w) :
    ∃ since, Pass t i k since := by
  cases h with
  | step h hs =>
      cases hs with
      | release hi => exact h.pass_of_key? (by rw [hi]; rfl)

end WorkerPool

end FaasOperator
