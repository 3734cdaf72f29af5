/-
# `FaasOperator.Proofs.WorkQueue.Retries` — a failed reconcile is never dropped

## What is proved

In every run of a pool of workers, for every key (`retried_until_success`):

* the failures that are counted are those since its last success, as far as the queue can count;
* while there are any and the queue is open, the key is dirty or held, or an add of it is put off to
  a time no later than the longest delay after its last failure: a time that is told from the
  failure on, since no time passes between the two halves of a retry;
* a key that was taken is still held by the worker that took it, or was released by it once since,
  and every release ends such a pass;
* whatever comes of a reconcile, its worker can go on and release the key.

## How

The key is owed a pass as long as it has failures (`Owed`): the worker that failed has the key until
it has asked for the retry, a retry that is due makes the key dirty, and whoever takes the key is at
work on it again.
-/
import FaasOperator.Proofs.Backoff
import FaasOperator.Proofs.WorkQueue.Pool

namespace FaasOperator

/-! ## Counting failures -/

namespace WorkQueue

variable {κ : Type} [DecidableEq κ]

theorem numRequeues_forget (k j : κ) (q : WorkQueue κ) :
    (q.forget k).numRequeues j = if j = k then 0 else q.numRequeues j := by
  have hlookup (es : List (κ × Nat)) :
      (es.filter fun e => e.1 != k).lookup j = if j = k then none else es.lookup j := by
    induction es with
    | nil => simp
    | cons e es ih =>
        obtain ⟨a, n⟩ := e
        by_cases ha : a = k
        · subst ha
          by_cases hj : j = a
          · simpa [hj] using ih
          · have hne : (j == a) = false := beq_eq_false_iff_ne.mpr hj
            simpa [List.lookup_cons, hj, hne] using ih
        · by_cases hj : j = a
          · simp [ha, hj]
          · have hne : (j == a) = false := beq_eq_false_iff_ne.mpr hj
            simpa [List.lookup_cons, ha, hne] using ih
  simp only [numRequeues, forget, hlookup]
  split <;> rfl

theorem numRequeues_countFailure (k j : κ) (q : WorkQueue κ) :
    (q.countFailure k).numRequeues j =
      if j = k then min (q.numRequeues k + 1) maxFailures else q.numRequeues j := by
  by_cases hj : j = k
  · simp [numRequeues, countFailure, hj]
  · have hne : (j == k) = false := beq_eq_false_iff_ne.mpr hj
    have hforget := numRequeues_forget k j q
    rw [if_neg hj] at hforget ⊢
    rw [← hforget]
    simp [numRequeues, countFailure, List.lookup_cons, hne]

end WorkQueue

theorem Agenda.mem_place {α : Type} {e e' : Entry α} {es : List (Entry α)} :
    e' ∈ place e es ↔ e' = e ∨ e' ∈ es := by
  induction es with
  | nil => simp [place]
  | cons x es ih =>
      rw [place]
      split
      · rw [List.mem_cons, ih, List.mem_cons, or_left_comm]
      · rw [List.mem_cons]

namespace PoolEvent

variable {κ : Type} [DecidableEq κ]

def succeeds (k : κ) : PoolEvent κ → Bool
  | .succeeded _ a => a == k
  | _ => false

/-- When a reconcile of the key failed, if that is what happened. -/
def failure? (k : κ) : PoolEvent κ → Option Nat
  | .failed _ a time => if a = k then some time else none
  | _ => none

end PoolEvent

/-- The worker has the key in hand and has not told the queue all of how its reconcile ended. -/
def PoolWorker.AtWork {κ : Type} (k : κ) : PoolWorker κ → Prop
  | .working a => a = k
  | .failed d => d.key = k
  | _ => False

theorem PoolWorker.AtWork.key? {κ : Type} {k : κ} {s : PoolWorker κ} (h : s.AtWork k) :
    s.key? = some k := by
  cases s with
  | working a => exact congrArg some h
  | failed d => exact congrArg some h
  | idle | settled _ => exact h.elim

namespace WorkerPool

section Workers

variable {κ : Type} {w : WorkerPool κ} {i j : Nat} {k : κ}

/-- A worker that gets on leaves the others at their work. -/
theorem atWork_setWorker {s : PoolWorker κ} (hs : (w.workers i).AtWork k → s.AtWork k)
    (hj : (w.workers j).AtWork k) : ((w.setWorker i s).workers j).AtWork k := by
  by_cases hji : j = i
  · subst hji
    rw [workers_setWorker_self]
    exact hs hj
  · rwa [workers_setWorker_of_ne w hji]

theorem failed_of_setWorker {s : PoolWorker κ} {d : Delayed κ} (hs : ∀ d, s ≠ .failed d)
    (hj : (w.setWorker i s).workers j = .failed d) : w.workers j = .failed d := by
  by_cases hji : j = i
  · subst hji
    rw [workers_setWorker_self] at hj
    exact absurd hj (hs d)
  · rwa [workers_setWorker_of_ne w hji] at hj

end Workers

variable {κ : Type} [DecidableEq κ]

/-- How many reconciles of the key have failed since the last one that succeeded. -/
def failuresSince (k : κ) (t : List (PoolEvent κ)) : Nat :=
  (t.takeWhile fun e => !e.succeeds k).countP fun e => (e.failure? k).isSome

/-- When a reconcile of the key failed last. -/
def lastFailure? (k : κ) (t : List (PoolEvent κ)) : Option Nat := t.findSome? (·.failure? k)

variable {backoff : Backoff} {w w' : WorkerPool κ} {t t' : List (PoolEvent κ)} {e : PoolEvent κ}
  {k : κ} {i j : Nat}

theorem failuresSince_cons (k : κ) (e : PoolEvent κ) (t : List (PoolEvent κ)) :
    failuresSince k (e :: t) =
      if e.succeeds k then 0
      else failuresSince k t + if (e.failure? k).isSome then 1 else 0 := by
  by_cases h : e.succeeds k = true
  · simp [failuresSince, h]
  · simp [failuresSince, h, List.countP_cons]

theorem lastFailure?_cons (k : κ) (e : PoolEvent κ) (t : List (PoolEvent κ)) :
    lastFailure? k (e :: t) = (e.failure? k).or (lastFailure? k t) := by
  rw [lastFailure?, List.findSome?_cons]
  cases e.failure? k <;> rfl

/-- A step counts a failure of the key, forgets its failures, or leaves its count alone. -/
theorem Step.numRequeues (hs : Step w e w') (k : κ) :
    w'.queue.numRequeues k =
      if e.succeeds k then 0
      else if (e.failure? k).isSome then min (w.queue.numRequeues k + 1) WorkQueue.maxFailures
      else w.queue.numRequeues k := by
  cases hs with
  | @succeed i a _ =>
      refine (WorkQueue.numRequeues_forget a k w.queue).trans ?_
      simp [PoolEvent.succeeds, PoolEvent.failure?, eq_comm (a := a)]
  | @fail i a _ =>
      refine (WorkQueue.numRequeues_countFailure a k w.queue).trans ?_
      by_cases ha : k = a
      · simp [PoolEvent.succeeds, PoolEvent.failure?, ha]
      · simp [PoolEvent.succeeds, PoolEvent.failure?, ha, Ne.symm ha]
  | add | fire _ _ =>
      exact congrArg (fun fs => (fs.lookup k).getD 0) (WorkQueue.failures_add _ w.queue)
  | take _ hget => exact congrArg (fun fs => (fs.lookup k).getD 0) (WorkQueue.failures_get hget)
  | @retry i d _ =>
      obtain ⟨-, -, -, hfailures⟩ := addAfter_spec w.timed d.key d.delay
      exact congrArg (fun fs => (fs.lookup k).getD 0) hfailures
  | release _ | pass _ | close => rfl

theorem Run.numRequeues (h : Run backoff t w) (k : κ) :
    w.queue.numRequeues k = min (failuresSince k t) WorkQueue.maxFailures := by
  induction h with
  | start => rfl
  | step _ hs ih =>
      rw [hs.numRequeues k, failuresSince_cons, ih]
      split
      · rfl
      · split <;> omega

/-! ## What is owed to a key -/

/-- The key will be reconciled again: it is dirty, or at work, or an add of it is put off for no
longer than the longest delay after its last failure. -/
def Owed (backoff : Backoff) (t : List (PoolEvent κ)) (w : WorkerPool κ) (k : κ) : Prop :=
  k ∈ w.queue.dirty ∨ (∃ i, (w.workers i).AtWork k) ∨
    ∃ e ∈ w.delayed, e.action = k ∧
      ∃ time, lastFailure? k t = some time ∧ e.due ≤ time + backoff.max.nanos

theorem Owed.mono (h : w.Owed backoff t k) (hd : k ∈ w.queue.dirty → k ∈ w'.queue.dirty)
    (hw : ∀ i, (w.workers i).AtWork k → (w'.workers i).AtWork k)
    (he : ∀ e ∈ w.delayed, e.action = k → e ∈ w'.delayed)
    (ht : lastFailure? k t' = lastFailure? k t) : w'.Owed backoff t' k := by
  rcases h with h | ⟨i, hi⟩ | ⟨e, hmem, hk, htime⟩
  · exact .inl (hd h)
  · exact .inr (.inl ⟨i, hw i hi⟩)
  · exact .inr (.inr ⟨e, he e hmem hk, hk, ht ▸ htime⟩)

/-- A worker that has counted a failure has done so just now, and its retry does not wait longer
than the longest delay; and whatever has failed since it last succeeded is owed a pass. -/
structure Kept (backoff : Backoff) (t : List (PoolEvent κ)) (w : WorkerPool κ) : Prop where
  same : w.timed.backoff = backoff
  retry : ∀ i d, w.workers i = .failed d →
    lastFailure? d.key t = some w.now ∧ d.delay.nanos ≤ backoff.max.nanos
  owed : ∀ k, 0 < failuresSince k t → w.Owed backoff t k

/-- A step that fails nothing. -/
theorem Kept.next (h : w.Kept backoff t) (he : ∀ k, e.failure? k = none)
    (hb : w'.timed.backoff = w.timed.backoff)
    (hw : ∀ i d, w'.workers i = .failed d → w.workers i = .failed d ∧ w'.now = w.now)
    (howed : ∀ k, e.succeeds k = false → lastFailure? k (e :: t) = lastFailure? k t →
      w.Owed backoff t k → w'.Owed backoff (e :: t) k) : w'.Kept backoff (e :: t) := by
  have hlast (k : κ) : lastFailure? k (e :: t) = lastFailure? k t := by
    rw [lastFailure?_cons, he]
    rfl
  refine ⟨hb.trans h.same, fun i d hi => ?_, fun k hk => ?_⟩
  · obtain ⟨hi, hnow⟩ := hw i d hi
    rw [hlast, hnow]
    exact h.retry i d hi
  · rw [failuresSince_cons, he] at hk
    split at hk
    · exact absurd hk (Nat.lt_irrefl 0)
    · rename_i hsucceeds
      exact howed k (Bool.eq_false_iff.mpr hsucceeds) (hlast k) (h.owed k hk)

theorem Step.closed_eq_false (hs : Step w e w') (hopen : w'.queue.closed = false) :
    w.queue.closed = false := by
  cases hs with
  | add | fire _ _ => exact (WorkQueue.closed_add _ w.queue).symm.trans hopen
  | take _ hget => exact (WorkQueue.closed_get hget).symm.trans hopen
  | @retry i d _ =>
      obtain ⟨-, -, hclosed, -⟩ := addAfter_spec w.timed d.key d.delay
      exact hclosed.symm.trans hopen
  | succeed _ | fail _ | release _ | pass _ => exact hopen
  | close => cases hopen

/-- A retry in an open queue makes the key dirty, or puts an add of it off for its delay. -/
theorem Kept.owed_retry {d : Delayed κ} {s : PoolWorker κ} (h : w.Kept backoff t)
    (hi : w.workers i = .failed d) (hopen : w.queue.closed = false)
    (hlast' : lastFailure? d.key t' = lastFailure? d.key t) :
    Owed backoff t' { w.setWorker i s with timed := w.timed.addAfter d.key d.delay } d.key := by
  obtain ⟨hlast, hdelay⟩ := h.retry i d hi
  rcases addAfter_cases w.timed d.key d.delay with hadd | ⟨hclosed, -⟩ | hlater
  · refine .inl ?_
    rw [hadd]
    exact WorkQueue.mem_dirty_add.mpr (.inr ⟨rfl, hopen⟩)
  · rw [hopen] at hclosed
    cases hclosed
  · refine .inr (.inr ⟨⟨w.now + min d.delay.nanos Agenda.longestDelay, d.key⟩, ?_, rfl, w.now,
      hlast'.trans hlast, ?_⟩)
    · rw [hlater]
      exact Agenda.mem_place.mpr (.inl rfl)
    · have hmin := Nat.min_le_left d.delay.nanos Agenda.longestDelay
      show w.now + min d.delay.nanos Agenda.longestDelay ≤ w.now + backoff.max.nanos
      omega

theorem addAfter_keeps (t : TimedQueue κ) (a : κ) (delay : Duration) :
    (∀ k ∈ t.queue.dirty, k ∈ (t.addAfter a delay).queue.dirty) ∧
    ∀ e ∈ t.agenda.entries, e ∈ (t.addAfter a delay).agenda.entries := by
  rcases addAfter_cases t a delay with h | ⟨-, h⟩ | h <;> rw [h]
  · exact ⟨fun _ hk => WorkQueue.mem_dirty_add.mpr (.inl hk), fun _ he => he⟩
  · exact ⟨fun _ hk => hk, fun _ he => he⟩
  · exact ⟨fun _ hk => hk, fun _ he => Agenda.mem_place.mpr (.inr he)⟩

theorem Kept.fail {a : κ} (h : w.Kept backoff t) (hi : w.workers i = .working a) :
    Kept backoff (.failed i a w.now :: t)
      { w.setWorker i (.failed ⟨a, w.timed.backoff.delay (w.queue.numRequeues a)⟩) with
        timed := w.timed.mapQueue (·.countFailure a) } := by
  have hlast (k : κ) : lastFailure? k (.failed i a w.now :: t) =
      if a = k then some w.now else lastFailure? k t := by
    rw [lastFailure?_cons, PoolEvent.failure?]
    split <;> rfl
  refine ⟨h.same, fun j d hj => ?_, fun k hk => ?_⟩
  · by_cases hji : j = i
    · subst hji
      rw [workers_setWorker_self] at hj
      cases hj
      refine ⟨?_, h.same ▸ Backoff.nanos_delay_le _ _⟩
      rw [hlast, if_pos rfl]
      rfl
    · rw [workers_setWorker_of_ne w hji] at hj
      obtain ⟨hnow, hdelay⟩ := h.retry j d hj
      refine ⟨?_, hdelay⟩
      rw [hlast]
      split
      · rfl
      · exact hnow
  · by_cases hak : a = k
    · refine .inr (.inl ⟨i, ?_⟩)
      rw [workers_setWorker_self]
      exact hak
    · have hbefore : 0 < failuresSince k t := by
        simpa [failuresSince_cons, PoolEvent.succeeds, PoolEvent.failure?, hak] using hk
      refine (h.owed k hbefore).mono id (fun _ hj => atWork_setWorker (fun hw => ?_) hj)
        (fun _ he _ => he) ((hlast k).trans (if_neg hak))
      rw [hi] at hw
      exact absurd hw hak

theorem Kept.step (h : w.Kept backoff t) (hs : Step w e w') (hopen : w'.queue.closed = false) :
    w'.Kept backoff (e :: t) := by
  have hopen₀ := hs.closed_eq_false hopen
  cases hs with
  | add =>
      refine h.next (fun _ => rfl) rfl (fun _ _ hi => ⟨hi, rfl⟩) fun k _ hlast howed => ?_
      exact howed.mono (fun hd => WorkQueue.mem_dirty_add.mpr (.inl hd)) (fun _ hi => hi)
        (fun _ he _ => he) hlast
  | @fire e _ _ =>
      refine h.next (fun _ => rfl) rfl (fun _ _ hi => ⟨hi, rfl⟩) fun k _ hlast howed => ?_
      -- the add that was put off is gone, but it has made the key dirty
      by_cases hke : e.action = k
      · exact .inl (WorkQueue.mem_dirty_add.mpr (.inr ⟨hke.symm, hopen₀⟩))
      · refine howed.mono (fun hd => WorkQueue.mem_dirty_add.mpr (.inl hd)) (fun _ hi => hi)
          (fun e' he' hk' => ?_) hlast
        have hne : e' ≠ e := fun he => hke (he ▸ hk')
        exact (List.mem_erase_of_ne hne).mpr he'
  | @take i a q hi hget =>
      refine h.next (fun _ => rfl) rfl
        (fun _ _ hj => ⟨failed_of_setWorker (s := .working a) nofun hj, rfl⟩) fun k _ hlast howed => ?_
      by_cases hka : k = a
      · -- the key is not dirty any more, but the worker that took it is at work
        refine .inr (.inl ⟨i, ?_⟩)
        rw [workers_setWorker_self]
        exact hka.symm
      · refine howed.mono (fun hd => (WorkQueue.mem_dirty_get hget).mpr ⟨hd, hka⟩)
          (fun _ hj => atWork_setWorker (fun hw => ?_) hj) (fun _ he _ => he) hlast
        rw [hi] at hw
        exact hw.elim
  | @succeed i a hi =>
      refine h.next (fun _ => rfl) rfl
        (fun _ _ hj => ⟨failed_of_setWorker (s := .settled a) nofun hj, rfl⟩) fun k hk hlast howed => ?_
      refine howed.mono id (fun _ hj => atWork_setWorker (fun hw => ?_) hj) (fun _ he _ => he)
        hlast
      rw [hi] at hw
      exact absurd hw (beq_eq_false_iff_ne.mp hk)
  | fail hi => exact h.fail hi
  | @retry i d hi =>
      obtain ⟨hsame, hnow, -⟩ := addAfter_spec w.timed d.key d.delay
      obtain ⟨hdirty, hentries⟩ := addAfter_keeps w.timed d.key d.delay
      refine h.next (fun _ => rfl) hsame
        (fun _ _ hj => ⟨failed_of_setWorker (s := .settled d.key) nofun hj, hnow⟩)
        fun k _ hlast howed => ?_
      by_cases hkd : d.key = k
      · subst hkd
        exact h.owed_retry hi hopen₀ hlast
      · refine howed.mono (hdirty k) (fun _ hj => atWork_setWorker (fun hw => ?_) hj)
          (fun e he _ => hentries e he) hlast
        rw [hi] at hw
        exact absurd hw hkd
  | @release i a hi =>
      refine h.next (fun _ => rfl) rfl
        (fun _ _ hj => ⟨failed_of_setWorker (s := .idle) nofun hj, rfl⟩) fun k _ hlast howed => ?_
      refine howed.mono id (fun _ hj => atWork_setWorker (fun hw => ?_) hj) (fun _ he _ => he)
        hlast
      rw [hi] at hw
      exact hw.elim
  | pass hnone =>
      -- no worker is between the halves of a retry, so the time of none of them is past
      refine h.next (fun _ => rfl) rfl (fun i d hi => absurd hi (hnone i d))
        fun k _ hlast howed => ?_
      exact howed.mono id (fun _ hi => hi) (fun _ he _ => he) hlast
  | close => cases hopen

theorem Run.kept (h : Run backoff t w) (hopen : w.queue.closed = false) : w.Kept backoff t := by
  induction h with
  | start => exact ⟨rfl, nofun, fun k hk => absurd hk (Nat.lt_irrefl 0)⟩
  | step _ hs ih => exact (ih (hs.closed_eq_false hopen)).step hs hopen

/-! ## Every failure is retried -/

theorem Run.releases (h : Run backoff t w) (hi : w.workers i = .working k) :
    (∃ w', Run backoff (.released i k :: .succeeded i k :: t) w') ∧
    ∃ w', Run backoff (.released i k :: .retried i k :: .failed i k w.now :: t) w' := by
  constructor
  · exact ⟨_, h.endPass_of_ok (ε := Unit) hi ()⟩
  · exact ⟨_, h.endPass_of_error (α := Unit) hi ()⟩

/-- A failed reconcile is never dropped.  The failures that are counted for a key are those since its
last success; while there are any and the queue is open, the key is dirty or held, or an add of it
is put off to a time no later than the longest delay after its last failure.  A key that was taken
is still held, or was released once since, by the worker that took it; a release ends such a pass;
and whatever comes of a reconcile, its worker can go on and release the key.

The due time is bounded from the failure, although the add is put off only by the second half of the
retry.  Between the halves the worker waits for nothing, and the clock stands still until it has
made them both: that is the guard of `Step.pass`.  `ClockedQueue.Step.pass` has no such guard,
because there the due time is told from the moment at which the add is put off, however late after
the failure that is. -/
theorem retried_until_success (h : Run backoff t w) (k : κ) :
    w.queue.numRequeues k = min (failuresSince k t) WorkQueue.maxFailures ∧
    (w.queue.closed = false → 0 < w.queue.numRequeues k →
      k ∈ w.queue.dirty ∨ k ∈ w.queue.processing ∨
      ∃ e ∈ w.delayed, e.action = k ∧
        ∃ time, lastFailure? k t = some time ∧ e.due ≤ time + backoff.max.nanos) ∧
    (∀ after i before, t = after ++ .took i k :: before →
      ((w.workers i).key? = some k ∧ ∀ e ∈ after, ¬e.Moves k) ∨
      ∃ later since, after = later ++ .released i k :: since ∧ ∀ e ∈ since, ¬e.Moves k) ∧
    (∀ later i before, t = later ++ .released i k :: before →
      ∃ since rest, before = since ++ .took i k :: rest ∧ ∀ e ∈ since, ¬e.Moves k) ∧
    ∀ i, w.workers i = .working k →
      (∃ w', Run backoff (.released i k :: .succeeded i k :: t) w') ∧
      ∃ w', Run backoff (.released i k :: .retried i k :: .failed i k w.now :: t) w' := by
  refine ⟨h.numRequeues k, fun hopen hk => ?_, fun after i before ht => h.pass_or_released ht,
    fun later i before ht => ?_, fun i hi => h.releases hi⟩
  · have hfailed : 0 < failuresSince k t := by
      rw [h.numRequeues k] at hk
      omega
    rcases (h.kept hopen).owed k hfailed with hdirty | ⟨i, hi⟩ | hlater
    · exact .inl hdirty
    · exact .inr (.inl (h.orderly.held i k (hi.key?)))
    · exact .inr (.inr hlater)
  · subst ht
    obtain ⟨w₀, h₀⟩ := h.of_append
    obtain ⟨since, ⟨rest, hsplit⟩, hquiet⟩ := h₀.pass_of_released
    exact ⟨since, rest, hsplit, hquiet⟩

/-- A reconcile failed seven milliseconds after the start, and its worker has released the key:
nothing keeps the key but the add that is put off. -/
theorem retried_until_success_later :
    ∃ t, ∃ w : WorkerPool String, Run .default t w ∧ w.queue.closed = false ∧
      0 < w.queue.numRequeues "echo" ∧ "echo" ∉ w.queue.dirty ∧ "echo" ∉ w.queue.processing ∧
      ∃ e ∈ w.delayed, e.action = "echo" ∧
        ∃ time, lastFailure? "echo" t = some time ∧ e.due ≤ time + Backoff.default.max.nanos := by
  have h₀ : Run .default [] (start .default : WorkerPool String) := .start
  have h₁ : Run .default [.passed (7 * nanosPerMilli)] _ := h₀.step (.pass nofun)
  have h₂ := h₁.step (.add (k := "echo"))
  have h₃ := h₂.step (.take (i := 0) rfl rfl)
  have h₄ := h₃.step (.fail (i := 0) (k := "echo") rfl)
  have h₅ := h₄.step (.retry (i := 0) (d := ⟨"echo", Backoff.default.delay 0⟩) rfl)
  have h := h₅.step (.release (i := 0) (k := "echo") rfl)
  refine ⟨_, _, h, rfl, by decide, List.not_mem_nil, List.not_mem_nil, ?_⟩
  obtain ⟨-, hkept, -⟩ := retried_until_success h "echo"
  rcases hkept rfl (by decide) with hdirty | hheld | hlater
  · exact absurd hdirty List.not_mem_nil
  · exact absurd hheld List.not_mem_nil
  · exact hlater

end WorkerPool

end FaasOperator
