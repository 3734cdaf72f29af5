/-
# `FaasOperator.Proofs.WorkQueue.Schedule` — when failed keys come back

## What is proved

In every run of a queue under a clock, for every key (`retries_on_schedule`, `OnSchedule`):

* the delay of a retry follows from how many were begun since the failures of the key were last
  forgotten, and from nothing else: not from what is done with other keys, nor from how many adds of
  the key are put off already; it does not get shorter from one retry to the next;
* the caller that has begun a retry is about to add the key, or has scheduled the add for a time as
  much later as the delay says;
* an add that was put off is made once, when it is due or later, and then the key is taken, or
  dirty;
* a key that is neither dirty nor in line is not handed out before an add of it is due, unless
  somebody adds it directly.

A retry is begun by the step that counts a failure.  With the step that schedules the add it makes
up the program's `addRateLimited` (`run_addRateLimited`).
-/
import FaasOperator.Proofs.WorkQueue.Clocked
import FaasOperator.Proofs.WorkQueue.Retries

namespace FaasOperator

theorem Agenda.place_perm {α : Type} (e : Entry α) (es : List (Entry α)) :
    (place e es).Perm (e :: es) := by
  induction es with
  | nil => exact .refl _
  | cons x es ih =>
      rw [place]
      split
      · exact (ih.cons x).trans (.swap e x es)
      · exact .refl _

/-- Failures that are counted no more make no difference: the delay is the longest one by then. -/
theorem Backoff.delay_min_maxFailures (b : Backoff) (n : Nat) :
    b.delay (min n WorkQueue.maxFailures) = b.delay n := by
  have hmax : 32 ≤ WorkQueue.maxFailures := by decide
  by_cases hn : n ≤ WorkQueue.maxFailures
  · rw [Nat.min_eq_left hn]
  · rw [delay_of_le (n := n) (by omega), delay_of_le (by omega)]

namespace ClockEvent

variable {κ : Type}

def begins (i : Nat) : ClockEvent κ → Bool
  | .asked j _ | .counted j _ => j == i
  | _ => false

def schedules (i : Nat) : ClockEvent κ → Bool
  | .scheduled j _ _ => j == i
  | _ => false

/-- The caller did it, on the way to an add with a delay. -/
def IsBy (i : Nat) : ClockEvent κ → Prop
  | .asked j _ | .counted j _ | .scheduled j _ _ => j = i
  | _ => False

variable [DecidableEq κ]

def counts (k : κ) : ClockEvent κ → Bool
  | .counted _ d => d.key == k
  | _ => false

def forgets (k : κ) : ClockEvent κ → Bool
  | .forgot a => a == k
  | _ => false

/-- This add was put off. -/
def putsOff (e : Agenda.Entry κ) : ClockEvent κ → Bool
  | .scheduled _ d due => !d.delay.isZero && ⟨due, d.key⟩ == e
  | _ => false

def fires (e : Agenda.Entry κ) : ClockEvent κ → Bool
  | .fired e' => e' == e
  | _ => false

/-- How many retries of the key were begun since its failures were last forgotten. -/
def retries (k : κ) (t : List (ClockEvent κ)) : Nat :=
  (t.takeWhile fun e => !e.forgets k).countP (·.counts k)

variable {k : κ} {e : ClockEvent κ} {t since before : List (ClockEvent κ)}

theorem retries_cons (k : κ) (e : ClockEvent κ) (t : List (ClockEvent κ)) :
    retries k (e :: t) =
      if e.forgets k then 0 else retries k t + if e.counts k then 1 else 0 := by
  by_cases h : e.forgets k = true
  · simp [retries, h]
  · simp [retries, h, List.countP_cons]

theorem forgets_iff : e.forgets k = true ↔ e = .forgot k := by
  cases e with
  | forgot a => simp [forgets]
  | _ => exact ⟨nofun, nofun⟩

theorem retries_le_append (h : .forgot k ∉ since) :
    retries k before ≤ retries k (since ++ before) := by
  induction since with
  | nil => exact Nat.le_refl _
  | cons e since ih =>
      obtain ⟨he, hsince⟩ := not_or.mp (mt List.mem_cons.mpr h)
      have hforgets : ¬e.forgets k = true := fun hf => he (forgets_iff.mp hf).symm
      rw [List.cons_append, retries_cons, if_neg hforgets]
      exact Nat.le_trans (ih hsince) (Nat.le_add_right ..)

end ClockEvent

namespace ClockedQueue

open ClockEvent (elapsed retries retries_cons)

variable {κ : Type} {backoff : Backoff} {w w' w'' : ClockedQueue κ}
  {t after before : List (ClockEvent κ)} {e : ClockEvent κ} {d : Delayed κ} {k : κ} {i : Nat}

/-- An add of the key is due then: it has waited for that time, or was scheduled for it since. -/
def DueAt (w : ClockedQueue κ) (since : List (ClockEvent κ)) (k : κ) (due : Nat) : Prop :=
  ⟨due, k⟩ ∈ w.delayed ∨ ∃ i d, .scheduled i d due ∈ since ∧ d.key = k

theorem DueAt.cons {since : List (ClockEvent κ)} {due : Nat} (h : w.DueAt since k due) :
    w.DueAt (e :: since) k due :=
  h.imp id fun ⟨i, d, hmem, hk⟩ => ⟨i, d, List.mem_cons_of_mem _ hmem, hk⟩

variable [DecidableEq κ]

/-! ## The delay of a retry -/

theorem Step.numRequeues (h : Step backoff w e w') (k : κ) :
    w'.queue.numRequeues k =
      if e.forgets k then 0
      else if e.counts k then min (w.queue.numRequeues k + 1) WorkQueue.maxFailures
      else w.queue.numRequeues k := by
  have hkeep {q : WorkQueue κ} (hq : q.failures = w.queue.failures) :
      q.numRequeues k = w.queue.numRequeues k :=
    congrArg (fun fs => (fs.lookup k).getD 0) hq
  cases h with
  | @forget a =>
      refine (WorkQueue.numRequeues_forget a k w.queue).trans ?_
      simp [ClockEvent.forgets, ClockEvent.counts, eq_comm (a := a)]
  | @count i a _ =>
      refine (WorkQueue.numRequeues_countFailure a k w.queue).trans ?_
      by_cases ha : k = a
      · simp [ClockEvent.forgets, ClockEvent.counts, ha]
      · simp [ClockEvent.forgets, ClockEvent.counts, ha, Ne.symm ha]
  | add | fire _ _ => exact hkeep (WorkQueue.failures_add ..)
  | schedule _ => exact hkeep (failures_schedule ..)
  | take hget => exact hkeep (WorkQueue.failures_get hget)
  | miss hget hne => exact hkeep (congrArg _ (WorkQueue.get_eq_of_ne_key hget hne))
  | ask _ | release | pass => rfl

/-- The queue counts the retries, as far as it can count. -/
theorem Run.numRequeues (h : Run backoff start t w) (k : κ) :
    w.queue.numRequeues k = min (retries k t) WorkQueue.maxFailures := by
  induction h with
  | nil => rfl
  | step _ hs ih =>
      rw [hs.numRequeues k, retries_cons, ih]
      split
      · rfl
      · split <;> omega

theorem Run.delay_of_counted (h : Run backoff start (after ++ .counted i d :: before) w) :
    d.delay = backoff.delay (retries d.key before) := by
  obtain ⟨w₁, h₁, -⟩ := h.split
  cases h₁ with
  | step h₀ hs =>
      cases hs with
      | count _ => rw [h₀.numRequeues, Backoff.delay_min_maxFailures]

/-! ## Callers -/

theorem Step.asked_of_not_isBy (h : Step backoff w e w') (he : ¬e.IsBy i) :
    w'.asked i = w.asked i := by
  cases h with
  | ask _ | count _ => exact Function.update_of_ne (fun hi => he hi.symm) ..
  | schedule _ =>
      rw [asked_schedule]
      exact Function.update_of_ne (fun hi => he hi.symm) ..
  | add | fire _ _ | forget | take _ | miss _ _ | release | pass => rfl

theorem Step.eq_scheduled (h : Step backoff w e w') (hi : w.asked i = some d) (he : e.IsBy i) :
    e = .scheduled i d (w.now + d.delay.nanos) := by
  cases h with
  | ask hnone | count hnone =>
      obtain rfl := he
      rw [hnone] at hi
      cases hi
  | schedule hj =>
      obtain rfl := he
      rw [hj] at hi
      cases hi
      rfl
  | add | fire _ _ | forget | take _ | miss _ _ | release | pass => exact he.elim

/-- Whatever a caller has begun it schedules, unless it is still about to. -/
theorem Step.asked_balance (h : Step backoff w e w') (i : Nat) :
    (if (w'.asked i).isSome then 1 else 0) + (if e.schedules i then 1 else 0) =
      (if (w.asked i).isSome then 1 else 0) + if e.begins i then 1 else 0 := by
  cases h with
  | @ask j d hnone | @count j a hnone =>
      by_cases hj : j = i
      · subst hj
        simp [ClockEvent.schedules, ClockEvent.begins, hnone]
      · simp [ClockEvent.schedules, ClockEvent.begins, hj, Function.update_of_ne (Ne.symm hj)]
  | @schedule j d hsome =>
      rw [asked_schedule]
      by_cases hj : j = i
      · subst hj
        simp [ClockEvent.schedules, ClockEvent.begins, hsome]
      · simp [ClockEvent.schedules, ClockEvent.begins, hj, Function.update_of_ne (Ne.symm hj)]
  | add | fire _ _ | forget | take _ | miss _ _ | release | pass => rfl

theorem Run.asked_balance (h : Run backoff w t w') (i : Nat) :
    (if (w'.asked i).isSome then 1 else 0) + t.countP (·.schedules i) =
      (if (w.asked i).isSome then 1 else 0) + t.countP (·.begins i) := by
  induction h with
  | nil => rfl
  | step _ hs ih =>
      have hstep := hs.asked_balance i
      rw [List.countP_cons, List.countP_cons]
      omega

/-- A caller that has counted a failure is still about to add the key, or has scheduled that since,
for a time as much later as the delay says. -/
theorem Run.asked_or_scheduled (h : Run backoff start t w)
    (ht : t = after ++ .counted i d :: before) :
    (w.asked i = some d ∧ ∀ e ∈ after, ¬e.IsBy i) ∨
    ∃ later since, after = later ++
        .scheduled i d (elapsed (since ++ .counted i d :: before) + d.delay.nanos) :: since ∧
      ∀ e ∈ since, ¬e.IsBy i := by
  induction h generalizing after with
  | nil => simp at ht
  | @step w w' t e h hs ih =>
      cases after with
      | nil =>
          cases ht
          cases hs with
          | count _ => exact .inl ⟨Function.update_self .., nofun⟩
      | cons e' after =>
          cases ht
          rcases ih rfl with ⟨hi, hquiet⟩ | ⟨later, since, rfl, hquiet⟩
          · by_cases he : e.IsBy i
            · refine .inr ⟨[], after, ?_, hquiet⟩
              have hnow : w.now = elapsed (after ++ .counted i d :: before) := h.now_eq
              rw [hs.eq_scheduled hi he, hnow]
              rfl
            · rw [← hs.asked_of_not_isBy he] at hi
              exact .inl ⟨hi, List.forall_mem_cons.mpr ⟨he, hquiet⟩⟩
          · exact .inr ⟨e :: later, since, rfl, hquiet⟩

/-! ## Timers -/

theorem Step.count_delayed (h : Step backoff w e w') (hopen : w.queue.closed = false)
    (x : Agenda.Entry κ) :
    w'.delayed.count x + (if e.fires x then 1 else 0) =
      w.delayed.count x + if e.putsOff x then 1 else 0 := by
  cases h with
  | @fire e hmem _ =>
      by_cases hx : e = x
      · subst hx
        have hpos : 0 < w.delayed.count e := List.count_pos_iff.mpr hmem
        simp only [ClockEvent.fires, ClockEvent.putsOff, List.count_erase_self, beq_self_eq_true,
          Bool.false_eq_true, if_true, if_false]
        omega
      · simp [ClockEvent.fires, ClockEvent.putsOff, hx, List.count_erase_of_ne (Ne.symm hx)]
  | @schedule i d _ =>
      rw [delayed_schedule, hopen, Bool.or_false]
      cases hzero : d.delay.isZero with
      | true => simp [ClockEvent.fires, ClockEvent.putsOff, hzero]
      | false =>
          simp [ClockEvent.fires, ClockEvent.putsOff, hzero, (Agenda.place_perm _ _).count_eq,
            List.count_cons]
  | add | ask _ | count _ | forget | take _ | miss _ _ | release | pass => rfl

theorem Run.count_delayed (h : Run backoff w t w') (hopen : w.queue.closed = false)
    (x : Agenda.Entry κ) :
    w'.delayed.count x + t.countP (·.fires x) = w.delayed.count x + t.countP (·.putsOff x) := by
  induction h with
  | nil => rfl
  | step h hs ih =>
      have hstep := hs.count_delayed (h.closed_eq.trans hopen) x
      rw [List.countP_cons, List.countP_cons]
      omega

theorem Run.due_le_of_fired {x : Agenda.Entry κ}
    (h : Run backoff start (after ++ .fired x :: before) w) : x.due ≤ elapsed before := by
  obtain ⟨w₁, h₁, -⟩ := h.split
  cases h₁ with
  | step h₀ hs =>
      cases hs with
      | fire _ hdue =>
          have hnow : _ = elapsed before := h₀.now_eq
          exact hnow ▸ hdue

theorem Run.took_or_dirty (h : Run backoff start (after ++ e :: before) w) (he : e.Adds k) :
    .took k ∈ after ∨ k ∈ w.queue.dirty := by
  obtain ⟨w₁, h₁, hafter⟩ := h.split
  cases h₁ with
  | step h₀ hs => exact hafter.keeps_dirty (hs.mem_dirty_of_adds h₀.closed_eq he)

/-! ## No key comes early -/

/-- Whatever is put off is due some time, and if the key is in the queue, one of the times is past.
-/
structure Awaits (w : ClockedQueue κ) (since : List (ClockEvent κ)) (w' : ClockedQueue κ) (k : κ) :
    Prop where
  delayed : ∀ x ∈ w'.delayed, x.action = k → w.DueAt since k x.due
  listed : w'.Lists k → ∃ due ≤ w'.now, w.DueAt since k due

theorem Step.mem_delayed (h : Step backoff w e w') {x : Agenda.Entry κ} (hx : x ∈ w'.delayed) :
    x ∈ w.delayed ∨ ∃ i d, e = .scheduled i d x.due ∧ d.key = x.action := by
  cases h with
  | fire _ _ => exact .inl (List.mem_of_mem_erase hx)
  | @schedule i d _ =>
      rw [delayed_schedule] at hx
      split at hx
      · exact .inl hx
      · rcases Agenda.mem_place.mp hx with rfl | hx
        · exact .inr ⟨i, d, rfl, rfl⟩
        · exact .inl hx
  | add | ask _ | count _ | forget | take _ | miss _ _ | release | pass => exact .inl hx

theorem Awaits.step {since : List (ClockEvent κ)} (h : w.Awaits since w' k)
    (hs : Step backoff w' e w'') (he : e ≠ .added k) : w.Awaits (e :: since) w'' k where
  delayed := by
    intro x hx hk
    rcases hs.mem_delayed hx with hx | ⟨i, d, rfl, hd⟩
    · exact (h.delayed x hx hk).cons
    · exact .inr ⟨i, d, List.mem_cons_self, hd.trans hk⟩
  listed := by
    intro hk
    have hlater : w'.now ≤ w''.now := hs.now_eq ▸ Nat.le_add_left ..
    rcases hs.lists hk with hk | hadds
    · obtain ⟨due, hdue, hat⟩ := h.listed hk
      exact ⟨due, Nat.le_trans hdue hlater, hat.cons⟩
    · -- the key was added by a timer, or by a caller without a delay
      cases hs with
      | add => exact absurd (congrArg ClockEvent.added hadds) he
      | @fire x hmem hdue => exact ⟨x.due, hdue, (h.delayed x hmem hadds).cons⟩
      | @schedule i d _ =>
          obtain ⟨hzero, hd⟩ := hadds
          have hnow : w'.now + d.delay.nanos = w'.now := by
            rw [eq_of_beq hzero, Nat.add_zero]
          exact ⟨_, Nat.le_trans (Nat.le_of_eq hnow) hlater,
            .inr ⟨i, d, List.mem_cons_self, hd⟩⟩
      | ask _ | count _ | forget | take _ | miss _ _ | release | pass => exact hadds.elim

theorem Run.awaits {since : List (ClockEvent κ)} (h : Run backoff w since w') (hk : ¬w.Lists k)
    (hadd : .added k ∉ since) : w.Awaits since w' k := by
  induction h with
  | nil =>
      refine ⟨fun x hx hxk => .inl ?_, fun h => absurd h hk⟩
      subst hxk
      exact hx
  | step _ hs ih =>
      obtain ⟨he, hadd⟩ := not_or.mp (mt List.mem_cons.mpr hadd)
      exact (ih hadd).step hs (Ne.symm he)

theorem Step.lists_of_took (h : Step backoff w (.took k) w') : w.Lists k := by
  cases h with
  | take hget =>
      obtain ⟨ks, hwaiting, -⟩ := WorkQueue.get_eq_key hget
      exact .inr (hwaiting ▸ List.mem_cons_self)

/-- A key that is not dirty does not wait in line either, if workers have released only what they
held. -/
theorem Run.not_lists (h : Run backoff start t w) (hdirty : k ∉ w.queue.dirty)
    (hline : k ∉ w.queue.waiting ∨ ∀ j, .released j false ∉ t) : ¬w.Lists k := by
  rintro (hk | hk)
  · exact hdirty hk
  · rcases hline with hline | hheld
    · exact hline hk
    · exact hdirty ((h.sound WorkQueue.sound_empty hheld).dirty k hk)

/-! ## The schedule -/

/-- What has become of the retries of a key.  The count of a failure begins one, which comes after
as many others as were begun since the failures were last forgotten. -/
structure OnSchedule (backoff : Backoff) (t : List (ClockEvent κ)) (w : ClockedQueue κ) (k : κ) :
    Prop where
  /-- The queue knows how many were begun, as far as it can count. -/
  counted : w.queue.numRequeues k = min (retries k t) WorkQueue.maxFailures
  forgotten : ∀ before, t = .forgot k :: before → w.queue.numRequeues k = 0
  /-- A retry is put off for as long as the number of those before it says. -/
  delay : ∀ after i d before, t = after ++ .counted i d :: before → d.key = k →
    d.delay = backoff.delay (retries k before) ∧ d.delay.nanos ≤ backoff.max.nanos
  /-- It is not put off for a shorter time than one before it, unless the failures were forgotten in
  between. -/
  grows : ∀ after j d' between i d before,
    t = after ++ .counted j d' :: (between ++ .counted i d :: before) → d.key = k → d'.key = k →
    .forgot k ∉ between → d.delay.nanos ≤ d'.delay.nanos
  /-- The caller that has begun it is about to add the key, or has scheduled that since, for a time
  as much later as the delay says. -/
  scheduled : ∀ after i d before, t = after ++ .counted i d :: before → d.key = k →
    (w.asked i = some d ∧ ∀ e ∈ after, ¬e.IsBy i) ∨
    ∃ later since, after = later ++
        .scheduled i d (elapsed (since ++ .counted i d :: before) + d.delay.nanos) :: since ∧
      ∀ e ∈ since, ¬e.IsBy i
  /-- No caller schedules more adds than it has begun. -/
  once : ∀ i, (if (w.asked i).isSome then 1 else 0) + t.countP (·.schedules i) =
    t.countP (·.begins i)
  /-- An add that was put off waits until it is made, once, -/
  waits : ∀ e, e.action = k →
    w.delayed.count e + t.countP (·.fires e) = t.countP (·.putsOff e)
  /-- when it is due or later. -/
  due : ∀ after e before, t = after ++ .fired e :: before → e.action = k → e.due ≤ elapsed before
  /-- An add that was made has been followed by a take of the key, or the key is dirty. -/
  made : ∀ after e before, t = after ++ e :: before → e.Adds k →
    .took k ∈ after ∨ k ∈ w.queue.dirty
  /-- If the key is not dirty, and not in line either, which goes without saying if workers release
  only what they hold, and nobody adds it directly, then it is not taken before an add of it is due,
  one that waits already or one that has been scheduled by then. -/
  patient : ∀ since w₁ w₂, k ∉ w.queue.dirty →
    (k ∉ w.queue.waiting ∨ ∀ j, .released j false ∉ t) → Run backoff w since w₁ →
    .added k ∉ since → Step backoff w₁ (.took k) w₂ → ∃ due ≤ w₁.now, w.DueAt since k due

/-- Every run keeps the retries of every key on schedule.  A retry is begun where a failure is
counted and goes on where its add is scheduled, perhaps much later; done one after the other these
are the program's `addRateLimited` (`run_addRateLimited`). -/
theorem retries_on_schedule (h : Run backoff start t w) (k : κ) : w.OnSchedule backoff t k where
  counted := h.numRequeues k
  forgotten := by
    rintro before rfl
    rw [h.numRequeues, retries_cons, if_pos (ClockEvent.forgets_iff.mpr rfl), Nat.zero_min]
  delay := by
    rintro after i d before rfl rfl
    have hdelay := h.delay_of_counted
    exact ⟨hdelay, hdelay ▸ backoff.nanos_delay_le _⟩
  grows := by
    rintro after j d' between i d before rfl rfl hd hforgot
    have hsecond := h.delay_of_counted
    rw [← List.cons_append, ← List.append_assoc] at h
    rw [hsecond, h.delay_of_counted, hd]
    refine backoff.nanos_delay_mono (Nat.le_trans ?_ (ClockEvent.retries_le_append hforgot))
    rw [retries_cons, if_neg nofun]
    exact Nat.le_add_right ..
  scheduled := fun after i d before ht _ => h.asked_or_scheduled ht
  once := fun i => (h.asked_balance i).trans (Nat.zero_add _)
  waits := fun e _ => (h.count_delayed rfl e).trans (Nat.zero_add _)
  due := by
    rintro after e before rfl -
    exact h.due_le_of_fired
  made := by
    rintro after e before rfl he
    exact h.took_or_dirty he
  patient := by
    intro since w₁ w₂ hdirty hline hrun hadd hs
    exact (hrun.awaits (h.not_lists hdirty hline) hadd).listed hs.lists_of_took

/-- Two callers begin a retry of one key, and the second one is done with it before the first one
has put its add off: the longer delay is over, and the key is taken. -/
theorem retries_on_schedule_of_two :
    ∃ w : ClockedQueue String,
      Run .default start
        [.took "echo", .fired ⟨10000000, "echo"⟩, .passed 10000000,
          .scheduled 1 ⟨"echo", .ofMillis 10⟩ 10000000, .counted 1 ⟨"echo", .ofMillis 10⟩,
          .counted 0 ⟨"echo", .ofMillis 5⟩] w ∧
      w.queue.numRequeues "echo" = 2 ∧ .ofMillis 10 = Backoff.default.delay 1 ∧
      w.asked 0 = some ⟨"echo", .ofMillis 5⟩ ∧ w.delayed.count ⟨10000000, "echo"⟩ = 0 := by
  have hfirst : Backoff.default.delay 0 = .ofMillis 5 := by decide
  have hsecond : Backoff.default.delay 1 = .ofMillis 10 := by decide
  have h₁ : Run .default start [.counted 0 ⟨"echo", Backoff.default.delay 0⟩] _ :=
    Run.nil.step (.count rfl)
  have h₂ : Run .default start [.counted 1 ⟨"echo", Backoff.default.delay 1⟩,
      .counted 0 ⟨"echo", Backoff.default.delay 0⟩] _ := h₁.step (.count rfl)
  rw [hfirst, hsecond] at h₂
  have h₃ := h₂.step (e := .scheduled 1 ⟨"echo", .ofMillis 10⟩ 10000000) (.schedule rfl)
  have h₄ := h₃.step (.pass (n := 10000000))
  have h₅ := h₄.step (.fire (e := ⟨10000000, "echo"⟩) List.mem_cons_self (Nat.le_refl _))
  have h := h₅.step (.take (k := "echo") rfl)
  have hkept := retries_on_schedule h "echo"
  have hdelay := (hkept.delay [_, _, _, _] 1 _ _ rfl rfl).1
  have hwaits := hkept.waits ⟨10000000, "echo"⟩ rfl
  have hmade := Nat.add_right_cancel (hwaits.trans rfl)
  exact ⟨_, h, hkept.counted.trans (by decide), hdelay, rfl, hmade⟩

end ClockedQueue

end FaasOperator
