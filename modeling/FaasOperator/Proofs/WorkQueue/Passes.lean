/-
# `FaasOperator.Proofs.WorkQueue.Passes` — no add is lost, and no pass is invented

## What is proved

In every run of a shared queue, for every key (`adds_answered_by_takes`):

* an add that was made before the queue was closed has been followed by a take of the key, or the
  key is dirty, and waits or will wait when the worker that holds it releases it;
* between two takes of the key, and before the first one, an add has marked it;
* the key was marked as often as it was taken, and once more if a pass over it is due:

      marks = takes + (1 if the key is dirty, else 0)

## How

An add that marks a key makes one pass over it due, and the next take of the key is that pass; so
takes and marks balance over any stretch of a run (`Run.balance`).  What is due stays due until the
key is taken.
-/
import FaasOperator.Proofs.WorkQueue.Shared

namespace FaasOperator

variable {κ : Type} [DecidableEq κ]

/-! ## Marks and takes -/

namespace QueueEvent

/-- The key was added, and marked by that. -/
def marks (k : κ) : QueueEvent κ → Bool
  | .added a marked => marked && a == k
  | _ => false

def takes (k : κ) : QueueEvent κ → Bool
  | .took _ a => a == k
  | _ => false

variable {e : QueueEvent κ} {k : κ}

theorem marks_iff : e.marks k = true ↔ e = .added k true := by
  cases e with
  | added a marked => simp [marks, and_comm]
  | asked _ | counted _ | putOff _ | forgot _ | took _ _ | missed _ _ | released _ _ | closed =>
      exact ⟨nofun, nofun⟩

theorem takes_iff : e.takes k = true ↔ ∃ i, e = .took i k := by
  cases e with
  | took i a => simp [takes]
  | added _ _ | asked _ | counted _ | putOff _ | forgot _ | missed _ _ | released _ _ | closed =>
      exact ⟨nofun, nofun⟩

end QueueEvent

namespace SharedQueue

variable {backoff : Backoff} {w w' w'' : SharedQueue κ} {t : List (QueueEvent κ)}
  {e : QueueEvent κ} {k : κ} {i : Nat}

/-! ## The balance -/

/-- How many passes over the key are due. -/
def due (w : SharedQueue κ) (k : κ) : Nat := if k ∈ w.queue.dirty then 1 else 0

theorem due_of_mem (h : k ∈ w.queue.dirty) : w.due k = 1 := if_pos h

theorem due_of_notMem (h : k ∉ w.queue.dirty) : w.due k = 0 := if_neg h

theorem due_congr (h : k ∈ w'.queue.dirty ↔ k ∈ w.queue.dirty) : w'.due k = w.due k := by
  rw [due, due, if_congr h rfl rfl]

theorem Step.mem_dirty_of_took (hw : w.Orderly) (h : Step backoff w (.took i k) w') :
    k ∈ w.queue.dirty := by
  cases h.effect with
  | take hget _ =>
      obtain ⟨ks, hwaiting, -⟩ := WorkQueue.get_eq_key hget
      exact hw.heldBy.queue.dirty k (hwaiting ▸ List.mem_cons_self)
  | rest _ hne _ _ _ _ _ => exact absurd rfl (hne i k)

theorem Step.notMem_dirty_of_took (h : Step backoff w (.took i k) w') : k ∉ w'.queue.dirty := by
  cases h.effect with
  | take hget _ => exact fun hk => ((WorkQueue.mem_dirty_get hget).mp hk).2 rfl
  | rest _ hne _ _ _ _ _ => exact absurd rfl (hne i k)

theorem marks_admits_iff {a : κ} :
    QueueEvent.marks k (.added a (w.admits a)) = true ↔
      (k = a ∧ w.queue.closed = false) ∧ k ∉ w.queue.dirty := by
  by_cases ha : k = a
  · subst ha
    simp [QueueEvent.marks, admits]
  · simp [QueueEvent.marks, ha, Ne.symm ha]

/-- An add makes a pass due if it marks the key, and otherwise leaves it at what is due. -/
theorem due_add {a : κ} (hq : w'.queue = w.queue.add a) (k : κ) :
    w'.due k = w.due k + if QueueEvent.marks k (.added a (w.admits a)) then 1 else 0 := by
  have hmem : k ∈ w'.queue.dirty ↔ k ∈ w.queue.dirty ∨ (k = a ∧ w.queue.closed = false) := by
    rw [hq]
    exact WorkQueue.mem_dirty_add
  by_cases hk : k ∈ w.queue.dirty
  · have hno : ¬QueueEvent.marks k (.added a (w.admits a)) = true := fun h =>
      (marks_admits_iff.mp h).2 hk
    rw [due_of_mem (hmem.mpr (.inl hk)), due_of_mem hk, if_neg hno]
  · by_cases ha : k = a ∧ w.queue.closed = false
    · have hyes : QueueEvent.marks k (.added a (w.admits a)) = true :=
        marks_admits_iff.mpr ⟨ha, hk⟩
      rw [due_of_mem (hmem.mpr (.inr ha)), due_of_notMem hk, if_pos hyes]
    · have hno : ¬QueueEvent.marks k (.added a (w.admits a)) = true := fun h =>
        ha (marks_admits_iff.mp h).1
      rw [due_of_notMem fun h => (hmem.mp h).elim hk ha, due_of_notMem hk, if_neg hno]

theorem Step.balance (hw : w.Orderly) (h : Step backoff w e w') (k : κ) :
    w'.due k + (if e.takes k then 1 else 0) = w.due k + if e.marks k then 1 else 0 := by
  cases h.effect with
  | add hq _ => exact due_add hq k
  | @take _ i a hget _ =>
      by_cases hk : a = k
      -- the pass that was due is the one that begins
      · subst hk
        rw [due_of_notMem h.notMem_dirty_of_took, due_of_mem (h.mem_dirty_of_took hw)]
        simp [QueueEvent.takes, QueueEvent.marks]
      · have hmem : k ∈ w'.queue.dirty ↔ k ∈ w.queue.dirty := by
          rw [WorkQueue.mem_dirty_get hget, and_iff_left (Ne.symm hk)]
        rw [due_congr hmem]
        simp [QueueEvent.takes, QueueEvent.marks, hk]
  | release _ hq _ =>
      have hdue : w'.due k = w.due k := due_congr (by rw [hq]; rfl)
      rw [hdue]
      rfl
  | rest hadd htake _ _ hdirty _ _ =>
      have hm : e.marks k ≠ true := fun h => hadd k true (QueueEvent.marks_iff.mp h)
      have ht : e.takes k ≠ true := fun h =>
        (QueueEvent.takes_iff.mp h).elim fun i => htake i k
      have hdue : w'.due k = w.due k := due_congr (by rw [hdirty])
      rw [hdue, if_neg hm, if_neg ht]

/-- Over any stretch of a run, the takes of a key are its marks, but for the pass that was due before
and the one that is due after. -/
theorem Run.balance (h : Run backoff w t w') (hw : w.Orderly) (k : κ) :
    w'.due k + t.countP (·.takes k) = w.due k + t.countP (·.marks k) := by
  induction h with
  | nil => rfl
  | step h hs ih =>
      have hstep := hs.balance (h.orderly hw) k
      rw [List.countP_cons, List.countP_cons]
      omega

/-- A key that is taken has been marked since it was last taken, or since the start. -/
theorem Run.marked_between {after between before : List (QueueEvent κ)}
    (h : Run backoff start (after ++ .took i k :: (between ++ before)) w)
    (hbefore : before = [] ∨ ∃ j rest, before = .took j k :: rest) :
    .added k true ∈ between := by
  obtain ⟨w₃, h₃, -⟩ := h.split
  cases h₃ with
  | step h₂ hs =>
      -- no pass is due at the beginning of the stretch, and one is at its end
      obtain ⟨w₁, h₁, hbetween⟩ := h₂.split
      have hclean : k ∉ w₁.queue.dirty := by
        rcases hbefore with rfl | ⟨j, rest, rfl⟩
        · cases h₁
          exact List.not_mem_nil
        · cases h₁ with
          | step _ hs => exact hs.notMem_dirty_of_took
      have hdirty := hs.mem_dirty_of_took (h₂.orderly orderly_start)
      have hbalance := hbetween.balance (h₁.orderly orderly_start) k
      rw [due_of_mem hdirty, due_of_notMem hclean] at hbalance
      have hpos : 0 < between.countP (·.marks k) := by omega
      obtain ⟨e, he, hmarks⟩ := List.countP_pos_iff.mp hpos
      exact QueueEvent.marks_iff.mp hmarks ▸ he

/-! ## What is due stays due -/

theorem Step.keeps_due (h : Step backoff w e w') (hk : k ∈ w.queue.dirty) :
    (∃ i, e = .took i k) ∨ k ∈ w'.queue.dirty := by
  cases h.effect with
  | add hq _ =>
      rw [hq]
      exact .inr (WorkQueue.mem_dirty_add.mpr (.inl hk))
  | @take _ i a hget _ =>
      by_cases ha : k = a
      · exact .inl ⟨i, by rw [ha]⟩
      · exact .inr ((WorkQueue.mem_dirty_get hget).mpr ⟨hk, ha⟩)
  | release _ hq _ =>
      rw [hq]
      exact .inr hk
  | rest _ _ _ _ hdirty _ _ => exact .inr (hdirty ▸ hk)

theorem Run.keeps_due (h : Run backoff w t w') (hk : k ∈ w.queue.dirty) :
    (∃ i, .took i k ∈ t) ∨ k ∈ w'.queue.dirty := by
  induction h with
  | nil => exact .inr hk
  | step _ hs ih =>
      rcases ih with ⟨i, hi⟩ | hk
      · exact .inl ⟨i, List.mem_cons_of_mem _ hi⟩
      · rcases hs.keeps_due hk with ⟨i, rfl⟩ | hk
        · exact .inl ⟨i, List.mem_cons_self⟩
        · exact .inr hk

theorem Step.mem_dirty_of_added {marked : Bool} (h : Step backoff w (.added k marked) w')
    (hopen : w.queue.closed = false) : k ∈ w'.queue.dirty := by
  cases h.effect with
  | add hq _ =>
      rw [hq]
      exact WorkQueue.mem_dirty_add.mpr (.inr ⟨rfl, hopen⟩)
  | rest hne _ _ _ _ _ _ => exact absurd rfl (hne k marked)

theorem Step.keeps_held (hw : w.Orderly) (h : Step backoff w e w') (hk : k ∈ w.held i)
    (he : e ≠ .released i k) : k ∈ w'.held i := by
  cases h.effect with
  | add _ hheld => exact hheld ▸ hk
  | take _ hheld => exact (mem_held_take hheld).mpr (.inr hk)
  | @release _ j a ha _ hheld =>
      refine (hw.mem_held_release ha hheld).mpr ⟨hk, ?_⟩
      rintro rfl
      exact he (by rw [hw.heldBy.alone i j k hk ha])
  | rest _ _ _ _ _ _ hheld => exact hheld ▸ hk

theorem Step.not_took_of_held {j : Nat} (hw : w.Orderly) (hk : k ∈ w.held i) :
    ¬Step backoff w (.took j k) w' := by
  intro h
  cases h.effect with
  | take hget _ =>
      exact hw.heldBy.queue.notMem_processing_of_get hget (hw.heldBy.held i k hk)
  | rest _ hne _ _ _ _ _ => exact hne j k rfl

/-- Until it is released, a key that was added while it is held stays held, and due. -/
theorem Run.keeps_held (h : Run backoff w t w') (hw : w.Orderly) (hk : k ∈ w.held i)
    (hdirty : k ∈ w.queue.dirty) (ht : ∀ j, .released j k ∉ t) :
    k ∈ w'.held i ∧ k ∈ w'.queue.dirty := by
  induction h with
  | nil => exact ⟨hk, hdirty⟩
  | @step _ _ _ e h hs ih =>
      obtain ⟨hk, hdirty⟩ := ih fun j hj => ht j (List.mem_cons_of_mem _ hj)
      have hmid := h.orderly hw
      refine ⟨hs.keeps_held hmid hk fun he => ht i (he ▸ List.mem_cons_self), ?_⟩
      rcases hs.keeps_due hdirty with ⟨j, rfl⟩ | hdirty
      · exact absurd hs (Step.not_took_of_held hmid hk)
      · exact hdirty

/-- The worker holds the key, and whenever the key is released next, it is by this worker, and the
key is in line then. -/
def RequeuesOnRelease (backoff : Backoff) (w : SharedQueue κ) (i : Nat) (k : κ) : Prop :=
  k ∈ w.held i ∧
  ∀ since w' j w'', Run backoff w since w' → (∀ l, .released l k ∉ since) →
    Step backoff w' (.released j k) w'' → j = i ∧ k ∈ w''.queue.waiting

theorem Orderly.requeuesOnRelease (hw : w.Orderly) (hk : k ∈ w.held i)
    (hdirty : k ∈ w.queue.dirty) : w.RequeuesOnRelease backoff i k := by
  refine ⟨hk, fun since w' j w'' h hsince hs => ?_⟩
  obtain ⟨hk, hdirty⟩ := h.keeps_held hw hk hdirty hsince
  cases hs.effect with
  | release hj hq _ =>
      refine ⟨(h.orderly hw).heldBy.alone j i k hj hk, ?_⟩
      rw [hq]
      show k ∈ if w'.queue.dirty.contains k then w'.queue.waiting ++ [k] else w'.queue.waiting
      rw [if_pos (List.contains_iff_mem.mpr hdirty)]
      exact List.mem_append_right _ List.mem_cons_self
  | rest _ _ hne _ _ _ _ => exact absurd rfl (hne j k)

/-! ## Every add is answered -/

/-- What is due is in line, or will be when the worker that holds the key releases it. -/
theorem Orderly.placed (hw : w.Orderly) (hdirty : k ∈ w.queue.dirty) :
    k ∈ w.queue.waiting ∨ ∃ i, w.RequeuesOnRelease backoff i k := by
  rcases hw.heldBy.queue.placed k hdirty with hwaiting | hprocessing
  · exact .inl hwaiting
  · obtain ⟨i, hi⟩ := hw.holder k hprocessing
    exact .inr ⟨i, hw.requeuesOnRelease hi hdirty⟩

/-- An add that was made before the queue was closed has been followed by a take of the key, or the
key is dirty, and waits or will wait when the worker that holds it releases it.  Between two takes
of a key, and before the first one, an add has marked it; and but for the pass that may be due, it
was taken as often as it was marked, and never more often. -/
theorem adds_answered_by_takes (h : Run backoff start t w) (k : κ) :
    (∀ after before marked, t = after ++ .added k marked :: before → .closed ∉ before →
      (∃ i, .took i k ∈ after) ∨
      k ∈ w.queue.dirty ∧ (k ∈ w.queue.waiting ∨ ∃ i, w.RequeuesOnRelease backoff i k)) ∧
    (∀ after i between before, t = after ++ .took i k :: (between ++ before) →
      (before = [] ∨ ∃ j rest, before = .took j k :: rest) → .added k true ∈ between) ∧
    t.countP (·.marks k) = t.countP (·.takes k) + w.due k := by
  have hend : w.Orderly := h.orderly orderly_start
  refine ⟨?_, ?_, ?_⟩
  · rintro after before marked rfl hbefore
    obtain ⟨w₂, h₂, hafter⟩ := h.split
    cases h₂ with
    | @step w₁ _ _ _ h₁ hs =>
        have hopen : w₁.queue.closed = false := by
          rw [← Bool.not_eq_true, h₁.closed_iff]
          exact hbefore
        rcases hafter.keeps_due (hs.mem_dirty_of_added hopen) with htaken | hdirty
        · exact .inl htaken
        · exact .inr ⟨hdirty, hend.placed hdirty⟩
  · rintro after i between before rfl hbefore
    exact h.marked_between hbefore
  · have hbalance := h.balance orderly_start k
    have hstart : (start : SharedQueue κ).due k = 0 := due_of_notMem List.not_mem_nil
    omega

/-- A key is added again while a worker holds it, and then the queue is closed: the first add was
followed by the take, and the worker will put the key in line for the second one. -/
theorem adds_answered_by_takes_readded :
    ∃ w : SharedQueue String,
      Run .default start [.closed, .added "echo" true, .took 0 "echo", .added "echo" true] w ∧
      .closed ∉ [QueueEvent.took 0 "echo", .added "echo" true] ∧
      ∃ i, w.RequeuesOnRelease .default i "echo" := by
  have h₀ : Run .default (start : SharedQueue String) [] start := .nil
  have h₁ := h₀.step (.add (k := "echo"))
  have h₂ := h₁.step (.take (i := 0) rfl)
  have h₃ := h₂.step (.add (k := "echo"))
  have h := h₃.step .close
  refine ⟨_, h, by simp, ?_⟩
  obtain ⟨i, hi⟩ | ⟨-, hwaiting | hrequeues⟩ :=
    (adds_answered_by_takes h "echo").1 [.closed] [.took 0 "echo", .added "echo" true] true rfl
      (by simp)
  · simp at hi
  · cases hwaiting
  · exact hrequeues

end SharedQueue

end FaasOperator
