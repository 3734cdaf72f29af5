/-
# `FaasOperator.Proofs.WorkQueue.Drain` — shutdown

## What is proved

A fixed crew of `n > 0` workers takes keys from a shared queue, each one after it has released the
key it had, until the queue answers that there is nothing and will be nothing; then the worker
leaves.  In every such run (`drained_when_all_left`):

* a worker gets that answer only when the queue is closed and nothing waits;
* when all have got it, no key waits, none is dirty and none is held, and every add before the
  shutdown has been followed by a take of the key;
* a key was taken only after an add before the shutdown.

What else a worker does while it holds a key, such as forgetting its failures or putting it off for
a retry, is what anybody may do at any time, and nothing is supposed of it.

## How

A worker that leaves finds the queue closed and nothing waiting, but others may still hold keys that
were added again, and these get in line when they are released.  It is the holder itself that comes
back for them: as long as a key is held its holder has not left, so that keys can only be put in
line while somebody is there to take them (`Attended`).
-/
import FaasOperator.Proofs.WorkQueue.Passes

namespace FaasOperator

variable {κ : Type}

/-- A worker asked for a key, and was given one or an answer. -/
def QueueEvent.AskedBy (i : Nat) : QueueEvent κ → Prop
  | .took j _ | .missed j _ => j = i
  | _ => False

namespace SharedQueue

variable {n : Nat} {t : List (QueueEvent κ)} {w w' : SharedQueue κ} {e : QueueEvent κ} {k : κ}
  {i : Nat}

/-! ## Somebody is there -/

/-- Whoever holds a key is of the crew and has not left, and unless nothing waits and nothing can be
added, somebody of the crew has not left. -/
structure Attended (n : Nat) (t : List (QueueEvent κ)) (w : SharedQueue κ) : Prop where
  holders : ∀ i, w.held i ≠ [] → i < n ∧ .missed i .closed ∉ t
  present : (∃ i < n, .missed i .closed ∉ t) ∨ w.queue.closed = true ∧ w.queue.waiting = []

theorem attended_start (hn : 0 < n) : Attended n [] (start : SharedQueue κ) where
  holders := fun _ h => absurd rfl h
  present := .inl ⟨0, hn, List.not_mem_nil⟩

theorem Attended.leave (h : Attended n t w) (hi : w.held i = []) (hheld : w'.held = w.held)
    (hw : w'.queue.closed = true ∧ w'.queue.waiting = []) :
    Attended n (.missed i .closed :: t) w' where
  holders := by
    intro j hj
    rw [hheld] at hj
    obtain ⟨hn, hstays⟩ := h.holders j hj
    refine ⟨hn, fun hmem => ?_⟩
    rcases List.mem_cons.mp hmem with hleft | hleft
    · cases hleft
      exact hj hi
    · exact hstays hleft
  present := .inr hw

/-- Where nobody leaves, it is enough to look at who holds a key that held none before, and at
whether somebody is there or nothing waits. -/
theorem Attended.stay (h : Attended n t w) (he : ∀ i, e ≠ .missed i .closed)
    (hheld : ∀ j, w'.held j ≠ [] → w.held j ≠ [] ∨ (j < n ∧ .missed j .closed ∉ t))
    (hpresent : (∃ i < n, .missed i .closed ∉ t) ∨
      w'.queue.closed = true ∧ w'.queue.waiting = []) : Attended n (e :: t) w' := by
  have hstays : ∀ j, .missed j .closed ∉ t → .missed j .closed ∉ e :: t := by
    intro j hj hmem
    rcases List.mem_cons.mp hmem with hmem | hmem
    · exact he j hmem.symm
    · exact hj hmem
  constructor
  · intro j hj
    rcases hheld j hj with hold | ⟨hn, hthere⟩
    · exact (h.holders j hold).imp id (hstays j)
    · exact ⟨hn, hstays j hthere⟩
  · rcases hpresent with ⟨i, hi, hthere⟩ | hdrained
    · exact .inl ⟨i, hi, hstays i hthere⟩
    · exact .inr hdrained

variable [DecidableEq κ] {backoff : Backoff}

/-- The runs with a crew of `n` workers.  A worker asks for a key when it holds none, and never again
after it was told that the queue is closed. -/
inductive CrewRun (backoff : Backoff) (n : Nat) : List (QueueEvent κ) → SharedQueue κ → Prop
  | nil : CrewRun backoff n [] start
  | step {t : List (QueueEvent κ)} {w w' : SharedQueue κ} {e : QueueEvent κ} :
      CrewRun backoff n t w → Step backoff w e w' →
      (∀ i, e.AskedBy i → i < n ∧ w.held i = [] ∧ .missed i .closed ∉ t) →
      CrewRun backoff n (e :: t) w'

theorem CrewRun.run (h : CrewRun backoff n t w) : Run backoff start t w := by
  induction h with
  | nil => exact .nil
  | step _ hs _ ih => exact ih.step hs

theorem Step.leave {q : WorkQueue κ} (h : w.queue.get = (.closed, q)) (i : Nat) :
    Step backoff w (.missed i .closed) { w with queue := q } :=
  .miss h nofun

theorem Step.drained_of_missed (h : Step backoff w (.missed i .closed) w') :
    w.queue.closed = true ∧ w.queue.waiting = [] := by
  cases h with
  | miss hget _ =>
      unfold WorkQueue.get at hget
      split at hget
      · cases hget
      · rename_i hwaiting
        split at hget
        · exact ⟨‹_›, hwaiting⟩
        · cases hget

theorem Attended.step (h : Attended n t w) (hs : Step backoff w e w')
    (hasks : ∀ i, e.AskedBy i → i < n ∧ w.held i = [] ∧ .missed i .closed ∉ t) :
    Attended n (e :: t) w' := by
  have hclosed : w.queue.closed = true → w'.queue.closed = true :=
    fun hw => hs.closed_iff.mpr (.inr hw)
  by_cases hleave : ∃ i, e = .missed i .closed
  · obtain ⟨i, rfl⟩ := hleave
    obtain ⟨hw, hempty⟩ := hs.drained_of_missed
    cases hs.effect with
    | rest _ _ _ hwaiting _ _ hheld =>
        exact h.leave (hasks i rfl).2.1 hheld ⟨hclosed hw, hwaiting.trans hempty⟩
  · have he : ∀ i, e ≠ .missed i .closed := fun i hi => hleave ⟨i, hi⟩
    cases hs.effect with
    | add hq hheld =>
        refine h.stay he (fun j hj => .inl (hheld ▸ hj)) ?_
        rcases h.present with hthere | ⟨hw, hempty⟩
        · exact .inl hthere
        · rw [hq, WorkQueue.closed_add, WorkQueue.add_of_closed hw]
          exact .inr ⟨hw, hempty⟩
    | @take _ i _ _ hheld =>
        obtain ⟨hi, -, hthere⟩ := hasks i rfl
        refine h.stay he (fun j hj => ?_) (.inl ⟨i, hi, hthere⟩)
        by_cases hji : j = i
        · rw [hji]
          exact .inr ⟨hi, hthere⟩
        · rw [hheld, Function.update_of_ne hji] at hj
          exact .inl hj
    | @release _ i _ hk _ hheld =>
        -- the key may get in line, but the worker that had it is there
        have hmine : w.held i ≠ [] := List.ne_nil_of_mem hk
        refine h.stay he (fun j hj => ?_) (.inl ⟨i, h.holders i hmine⟩)
        by_cases hji : j = i
        · rw [hji]
          exact .inl hmine
        · rw [hheld, Function.update_of_ne hji] at hj
          exact .inl hj
    | rest _ _ _ hwaiting _ _ hheld =>
        refine h.stay he (fun j hj => .inl (hheld ▸ hj)) ?_
        rcases h.present with hthere | ⟨hw, hempty⟩
        · exact .inl hthere
        · exact .inr ⟨hclosed hw, hwaiting.trans hempty⟩

theorem CrewRun.attended (h : CrewRun backoff n t w) (hn : 0 < n) : Attended n t w := by
  induction h with
  | nil => exact attended_start hn
  | step _ hs hasks ih => exact ih.step hs hasks

/-- When all have left, nobody holds a key, and no key is left. -/
theorem CrewRun.drained (h : CrewRun backoff n t w) (hn : 0 < n)
    (hleft : ∀ i < n, .missed i .closed ∈ t) :
    w.queue.waiting = [] ∧ w.queue.dirty = [] ∧ w.queue.processing = [] := by
  have hattended := h.attended hn
  have horderly : w.Orderly := h.run.orderly orderly_start
  have hwaiting : w.queue.waiting = [] := by
    rcases hattended.present with ⟨i, hi, hpresent⟩ | ⟨-, hwaiting⟩
    · exact absurd (hleft i hi) hpresent
    · exact hwaiting
  have hprocessing : w.queue.processing = [] := by
    refine List.eq_nil_iff_forall_not_mem.mpr fun k hk => ?_
    obtain ⟨i, hi⟩ := horderly.holder k hk
    obtain ⟨hn, hpresent⟩ := hattended.holders i (List.ne_nil_of_mem hi)
    exact hpresent (hleft i hn)
  refine ⟨hwaiting, List.eq_nil_iff_forall_not_mem.mpr fun k hk => ?_, hprocessing⟩
  rcases horderly.heldBy.queue.placed k hk with hk | hk
  · rw [hwaiting] at hk
    cases hk
  · rw [hprocessing] at hk
    cases hk

/-! ## Before and after the shutdown -/

/-- An add before the shutdown has been followed by a take of the key, or the key is dirty. -/
theorem Run.taken_or_dirty {after before : List (QueueEvent κ)} {marked : Bool}
    (h : Run backoff start (after ++ .added k marked :: before) w) (hopen : .closed ∉ before) :
    (∃ i, .took i k ∈ after) ∨ k ∈ w.queue.dirty := by
  obtain ⟨w₂, h₂, hafter⟩ := h.split
  cases h₂ with
  | @step w₁ _ _ _ h₁ hs =>
      have hopen : w₁.queue.closed = false := by
        rw [← Bool.not_eq_true, h₁.closed_iff]
        exact hopen
      exact hafter.keeps_due (hs.mem_dirty_of_added hopen)

theorem Step.marked_eq {marked : Bool} (h : Step backoff w (.added k marked) w') :
    marked = w.admits k := by
  cases h.effect with
  | add _ _ => rfl
  | rest hne _ _ _ _ _ _ => exact absurd rfl (hne k marked)

theorem Run.notMem_closed_of_marked {after before : List (QueueEvent κ)}
    (h : Run backoff start (after ++ .added k true :: before) w) : .closed ∉ before := by
  obtain ⟨w₂, h₂, -⟩ := h.split
  cases h₂ with
  | @step w₁ _ _ _ h₁ hs =>
      intro hmem
      have hclosed : w₁.queue.closed = true := h₁.closed_iff.mpr hmem
      have hadmits : true = w₁.admits k := hs.marked_eq
      rw [admits, hclosed] at hadmits
      cases hadmits

theorem Run.marked_of_took {after before : List (QueueEvent κ)}
    (h : Run backoff start (after ++ .took i k :: before) w) : .added k true ∈ before := by
  rw [← before.append_nil] at h
  exact h.marked_between (.inl rfl)

/-- A worker is told that there is nothing and will be nothing only when the queue is closed and
nothing waits.  When all workers of a crew have been told, no key waits, none is dirty and none is
held; every add before the shutdown has been followed by a take of the key; and a key was taken only
after an add before the shutdown. -/
theorem drained_when_all_left (hn : 0 < n) (h : CrewRun backoff n t w) :
    (∀ i w', Step backoff w (.missed i .closed) w' →
      w.queue.closed = true ∧ w.queue.waiting = []) ∧
    ((∀ i < n, .missed i .closed ∈ t) →
      w.queue.waiting = [] ∧ w.queue.dirty = [] ∧ w.queue.processing = [] ∧
      ∀ after before k marked, t = after ++ .added k marked :: before → .closed ∉ before →
        ∃ i, .took i k ∈ after) ∧
    ∀ after before i k, t = after ++ .took i k :: before →
      ∃ since earlier, before = since ++ .added k true :: earlier ∧ .closed ∉ earlier := by
  refine ⟨fun i w' hs => hs.drained_of_missed, fun hleft => ?_, ?_⟩
  · obtain ⟨hwaiting, hdirty, hprocessing⟩ := h.drained hn hleft
    refine ⟨hwaiting, hdirty, hprocessing, ?_⟩
    rintro after before k marked rfl hopen
    rcases h.run.taken_or_dirty hopen with htaken | hk
    · exact htaken
    · rw [hdirty] at hk
      cases hk
  · rintro after before i k rfl
    have hmarked : .added k true ∈ before := h.run.marked_of_took
    obtain ⟨since, earlier, rfl⟩ := List.append_of_mem hmarked
    have hrun : Run backoff start
        ((after ++ .took i k :: since) ++ .added k true :: earlier) w := by
      simpa using h.run
    exact ⟨since, earlier, rfl, hrun.notMem_closed_of_marked⟩

/-- A key is added again while a worker holds it, its reconcile fails, the queue is closed, and the
other worker leaves.  The retry comes too late to be of account; but the worker puts the key in line
when it releases it, and takes it once more before it leaves.  The latest event comes first. -/
def lateRetry : List (QueueEvent String) := [
  .missed 0 .closed, .released 0 "echo", .took 0 "echo", .released 0 "echo", .added "echo" false,
  .missed 1 .closed, .closed, .putOff ⟨"echo", Backoff.default.delay 0⟩, .counted "echo",
  .added "echo" true, .took 0 "echo", .added "echo" true]

theorem drained_when_all_left_readded :
    ∃ w, CrewRun .default 2 lateRetry w ∧ (∀ i < 2, .missed i .closed ∈ lateRetry) ∧
      w.queue.waiting = [] ∧ w.queue.dirty = [] ∧ w.queue.processing = [] ∧
      ∃ i, .took i "echo" ∈ lateRetry.take 9 := by
  have h₀ : CrewRun .default 2 [] (start : SharedQueue String) := .nil
  have h₁ := h₀.step (.add (k := "echo")) (fun _ => False.elim)
  have h₂ := h₁.step (.take (i := 0) rfl) (by rintro _ rfl; exact ⟨by decide, rfl, by simp⟩)
  have h₃ := h₂.step (.add (k := "echo")) (fun _ => False.elim)
  have h₄ := h₃.step (.count (k := "echo")) (fun _ => False.elim)
  have h₅ := h₄.step (.putOff List.mem_cons_self (by decide)) (fun _ => False.elim)
  have h₆ := h₅.step .close (fun _ => False.elim)
  have h₇ := h₆.step (.leave rfl 1)
    (by rintro _ rfl; exact ⟨by decide, rfl, by simp⟩)
  have h₈ := h₇.step (.fire List.mem_cons_self) (fun _ => False.elim)
  have h₉ := h₈.step (.release (i := 0) (k := "echo") List.mem_cons_self) (fun _ => False.elim)
  have h₁₀ := h₉.step (.take (i := 0) rfl)
    (by rintro _ rfl; exact ⟨by decide, rfl, by simp⟩)
  have h₁₁ := h₁₀.step (.release (i := 0) (k := "echo") List.mem_cons_self) (fun _ => False.elim)
  have h : CrewRun .default 2 lateRetry _ := h₁₁.step (.leave rfl 0)
    (by rintro _ rfl; exact ⟨by decide, rfl, by simp⟩)
  have hleft : ∀ i < 2, .missed i .closed ∈ lateRetry := by
    intro i hi
    obtain rfl | rfl : i = 0 ∨ i = 1 := by omega
    · simp [lateRetry]
    · simp [lateRetry]
  obtain ⟨-, hdrained, -⟩ := drained_when_all_left (by decide) h
  obtain ⟨hwaiting, hdirty, hprocessing, hadds⟩ := hdrained hleft
  have htaken := hadds (lateRetry.take 9) _ "echo" true rfl (by simp)
  exact ⟨_, h, hleft, hwaiting, hdirty, hprocessing, htaken⟩

end SharedQueue

end FaasOperator
