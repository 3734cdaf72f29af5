/-
# `FaasOperator.Proofs.WorkQueue.Sound` — what holds of the queue at all times

As long as only a worker that holds a key is done with it, each key waits at most once and not while
it is held, a key that waits is dirty, and a dirty key waits unless it is held (`Sound`).  Every
operation keeps this, and what each does to the keys that are dirty and to those that are held is
told by an equation or an equivalence of its own.

From that it follows that no two workers hold one key, whatever it is for a worker to hold one
(`HeldBy`).
-/
import Mathlib.Data.List.Nodup
import FaasOperator.Controller

namespace FaasOperator.WorkQueue

variable {κ : Type}

/-- The keys are where they should be: each waits at most once and not while it is held, a key that
waits is dirty, and a dirty key waits unless it is held. -/
structure Sound (q : WorkQueue κ) : Prop where
  nodup : q.waiting.Nodup
  apart : ∀ k ∈ q.waiting, k ∉ q.processing
  dirty : ∀ k ∈ q.waiting, k ∈ q.dirty
  placed : ∀ k ∈ q.dirty, k ∈ q.waiting ∨ k ∈ q.processing

theorem sound_empty : (empty : WorkQueue κ).Sound where
  nodup := .nil
  apart := fun _ h => absurd h List.not_mem_nil
  dirty := fun _ h => absurd h List.not_mem_nil
  placed := fun _ h => absurd h List.not_mem_nil

/-- Soundness is about where the keys are, not about failures or whether the queue is closed. -/
theorem Sound.congr {q r : WorkQueue κ} (h : q.Sound) (hw : r.waiting = q.waiting)
    (hd : r.dirty = q.dirty) (hp : r.processing = q.processing) : r.Sound where
  nodup := hw ▸ h.nodup
  apart := by
    rw [hw, hp]
    exact h.apart
  dirty := by
    rw [hw, hd]
    exact h.dirty
  placed := by
    rw [hw, hd, hp]
    exact h.placed

/-- A dirty key that neither waits nor is held gets in line; the others stay where they are. -/
theorem Sound.enqueue {q r : WorkQueue κ} {k : κ} (h : q.Sound) (hw : k ∉ q.waiting)
    (hwaiting : r.waiting = q.waiting ++ [k]) (hk : k ∈ r.dirty) (hp : k ∉ r.processing)
    (hdirty : ∀ j, j ≠ k → (j ∈ r.dirty ↔ j ∈ q.dirty))
    (hprocessing : ∀ j, j ≠ k → (j ∈ r.processing ↔ j ∈ q.processing)) : r.Sound := by
  have hmem {j : κ} : j ∈ r.waiting ↔ j ∈ q.waiting ∨ j = k := by
    rw [hwaiting, List.mem_append, List.mem_singleton]
  have hne {j : κ} (hj : j ∈ q.waiting) : j ≠ k := fun h => hw (h ▸ hj)
  constructor
  · rw [hwaiting, ← List.concat_eq_append]
    exact h.nodup.concat hw
  · intro j hj
    rcases hmem.mp hj with hj | rfl
    · exact fun hjp => h.apart j hj ((hprocessing j (hne hj)).mp hjp)
    · exact hp
  · intro j hj
    rcases hmem.mp hj with hj | rfl
    · exact (hdirty j (hne hj)).mpr (h.dirty j hj)
    · exact hk
  · intro j hj
    by_cases hjk : j = k
    · exact .inl (hmem.mpr (.inr hjk))
    · rcases h.placed j ((hdirty j hjk).mp hj) with hj | hj
      · exact .inl (hmem.mpr (.inl hj))
      · exact .inr ((hprocessing j hjk).mpr hj)

variable [DecidableEq κ] {q : WorkQueue κ} {k j : κ}

/-! ## Adding -/

/-- The three ways an add can go. -/
theorem add_cases (k : κ) (q : WorkQueue κ) :
    ((q.closed = true ∨ k ∈ q.dirty) ∧ q.add k = q) ∨
    (q.closed = false ∧ k ∉ q.dirty ∧ k ∈ q.processing ∧
      q.add k = { q with dirty := k :: q.dirty }) ∨
    (q.closed = false ∧ k ∉ q.dirty ∧ k ∉ q.processing ∧
      q.add k = { q with dirty := k :: q.dirty, waiting := q.waiting ++ [k] }) := by
  unfold add
  split
  · rename_i h
    exact .inl ⟨by simpa using h, rfl⟩
  · rename_i h
    simp only [Bool.or_eq_true, List.contains_iff_mem, not_or, Bool.not_eq_true] at h
    split
    · rename_i hp
      exact .inr (.inl ⟨h.1, h.2, List.contains_iff_mem.mp hp, rfl⟩)
    · rename_i hp
      exact .inr (.inr ⟨h.1, h.2, fun hk => hp (List.contains_iff_mem.mpr hk), rfl⟩)

@[simp] theorem processing_add (k : κ) (q : WorkQueue κ) :
    (q.add k).processing = q.processing := by
  rcases add_cases k q with ⟨-, h⟩ | ⟨-, -, -, h⟩ | ⟨-, -, -, h⟩ <;> rw [h]

@[simp] theorem closed_add (k : κ) (q : WorkQueue κ) : (q.add k).closed = q.closed := by
  rcases add_cases k q with ⟨-, h⟩ | ⟨-, -, -, h⟩ | ⟨-, -, -, h⟩ <;> rw [h]

@[simp] theorem failures_add (k : κ) (q : WorkQueue κ) : (q.add k).failures = q.failures := by
  rcases add_cases k q with ⟨-, h⟩ | ⟨-, -, -, h⟩ | ⟨-, -, -, h⟩ <;> rw [h]

theorem add_of_closed (h : q.closed = true) (k : κ) : q.add k = q := by
  unfold add
  rw [h, Bool.true_or, if_pos rfl]

theorem mem_dirty_add :
    j ∈ (q.add k).dirty ↔ j ∈ q.dirty ∨ (j = k ∧ q.closed = false) := by
  rcases add_cases k q with ⟨hno, h⟩ | ⟨hopen, -, -, h⟩ | ⟨hopen, -, -, h⟩
  · rw [h]
    refine ⟨.inl, ?_⟩
    rintro (hj | ⟨rfl, hopen⟩)
    · exact hj
    · exact hno.resolve_left (by simp [hopen])
  · rw [h, List.mem_cons, or_comm]
    simp [hopen]
  · rw [h, List.mem_cons, or_comm]
    simp [hopen]

theorem mem_dirty_addAll {ks : List κ} (hopen : q.closed = false) :
    j ∈ (q.addAll ks).dirty ↔ j ∈ q.dirty ∨ j ∈ ks := by
  unfold addAll
  induction ks generalizing q with
  | nil => simp
  | cons k ks ih =>
      rw [List.foldl_cons, ih ((closed_add k q).trans hopen), mem_dirty_add, List.mem_cons,
        or_assoc, and_iff_left hopen]

theorem Sound.add (h : q.Sound) (k : κ) : (q.add k).Sound := by
  rcases add_cases k q with ⟨-, he⟩ | ⟨-, -, hp, he⟩ | ⟨-, hd, hp, he⟩
  · rw [he]
    exact h
  · rw [he]
    refine ⟨h.nodup, h.apart, fun j hj => .tail _ (h.dirty j hj), fun j hj => ?_⟩
    rcases List.mem_cons.mp hj with rfl | hj
    · exact .inr hp
    · exact h.placed j hj
  · rw [he]
    -- a key that is not dirty does not wait
    have hw : k ∉ q.waiting := fun hk => hd (h.dirty k hk)
    refine h.enqueue hw rfl List.mem_cons_self hp (fun j hj => ?_) fun _ _ => .rfl
    rw [List.mem_cons, or_iff_right hj]

theorem addAfter_of_isZero {delay : Duration} (h : delay.isZero = true) :
    q.addAfter k delay = (q.add k, none) :=
  if_pos h

theorem fst_addAfter_of_not_isZero {delay : Duration} (h : delay.isZero = false) :
    (q.addAfter k delay).1 = q := by
  simp only [addAfter, h, Bool.false_eq_true, if_false]
  split <;> rfl

/-! ## Taking and releasing -/

theorem get_eq_of_ne_key {answer : Take κ} {q' : WorkQueue κ} (h : q.get = (answer, q'))
    (hne : ∀ k, answer ≠ .key k) : q' = q := by
  unfold get at h
  split at h
  · cases h
    exact absurd rfl (hne _)
  · cases h
    rfl

theorem get_eq_key {q' : WorkQueue κ} (h : q.get = (.key k, q')) :
    ∃ ks, q.waiting = k :: ks ∧
      q' = { q with
        waiting := ks
        dirty := q.dirty.filter (· != k)
        processing := k :: q.processing.filter (· != k) } := by
  unfold get at h
  split at h
  · rename_i k' ks hw
    cases h
    exact ⟨ks, hw, rfl⟩
  · split at h <;> cases h

theorem mem_filter_ne {ks : List κ} : j ∈ ks.filter (· != k) ↔ j ∈ ks ∧ j ≠ k := by
  rw [List.mem_filter, bne_iff_ne]

theorem mem_dirty_get {q' : WorkQueue κ} (h : q.get = (.key k, q')) :
    j ∈ q'.dirty ↔ j ∈ q.dirty ∧ j ≠ k := by
  obtain ⟨ks, -, rfl⟩ := get_eq_key h
  exact mem_filter_ne

theorem mem_processing_get {q' : WorkQueue κ} (h : q.get = (.key k, q')) :
    j ∈ q'.processing ↔ j = k ∨ j ∈ q.processing := by
  obtain ⟨ks, -, rfl⟩ := get_eq_key h
  rw [List.mem_cons, mem_filter_ne]
  by_cases hj : j = k <;> simp [hj]

theorem closed_get {q' : WorkQueue κ} (h : q.get = (.key k, q')) : q'.closed = q.closed := by
  obtain ⟨ks, -, rfl⟩ := get_eq_key h
  rfl

theorem failures_get {q' : WorkQueue κ} (h : q.get = (.key k, q')) :
    q'.failures = q.failures := by
  obtain ⟨ks, -, rfl⟩ := get_eq_key h
  rfl

theorem Sound.notMem_processing_of_get {q' : WorkQueue κ} (hq : q.Sound)
    (h : q.get = (.key k, q')) : k ∉ q.processing := by
  obtain ⟨ks, hw, -⟩ := get_eq_key h
  exact hq.apart k (hw ▸ List.mem_cons_self)

theorem Sound.get {q' : WorkQueue κ} (hq : q.Sound) (h : q.get = (.key k, q')) : q'.Sound := by
  have hdirty (j : κ) := mem_dirty_get (j := j) h
  have hproc (j : κ) := mem_processing_get (j := j) h
  obtain ⟨ks, hw, rfl⟩ := get_eq_key h
  obtain ⟨hk, hks⟩ := List.nodup_cons.mp (hw ▸ hq.nodup)
  have hmem {j : κ} (hj : j ∈ ks) : j ∈ q.waiting := hw ▸ List.mem_cons_of_mem k hj
  constructor
  · exact hks
  · intro j hj hp
    rcases (hproc j).mp hp with rfl | hp
    · exact hk hj
    · exact hq.apart j (hmem hj) hp
  · intro j hj
    exact (hdirty j).mpr ⟨hq.dirty j (hmem hj), fun hjk => hk (hjk ▸ hj)⟩
  · intro j hj
    obtain ⟨hj, hne⟩ := (hdirty j).mp hj
    rcases hq.placed j hj with hj | hj
    · exact .inl ((List.mem_cons.mp (hw ▸ hj)).resolve_left hne)
    · exact .inr ((hproc j).mpr (.inr hj))

theorem mem_processing_done : j ∈ (q.done k).processing ↔ j ∈ q.processing ∧ j ≠ k :=
  mem_filter_ne

/-- A worker that holds the key may be done with it. -/
theorem Sound.done (h : q.Sound) (hk : k ∈ q.processing) : (q.done k).Sound := by
  have hfree : k ∉ (q.done k).processing := fun hp => (mem_processing_done.mp hp).2 rfl
  by_cases hd : k ∈ q.dirty
  · have he : (q.done k).waiting = q.waiting ++ [k] := if_pos (List.contains_iff_mem.mpr hd)
    refine h.enqueue (fun hw => h.apart k hw hk) he hd hfree (fun _ _ => .rfl) fun j hj => ?_
    rw [mem_processing_done, and_iff_left hj]
  · have he : (q.done k).waiting = q.waiting :=
      if_neg fun hc => hd (List.contains_iff_mem.mp hc)
    constructor
    · rw [he]
      exact h.nodup
    · intro j hj hp
      exact h.apart j (he ▸ hj) (mem_processing_done.mp hp).1
    · intro j hj
      exact h.dirty j (he ▸ hj)
    · intro j hj
      rw [he, mem_processing_done]
      exact (h.placed j hj).imp id fun hp => ⟨hp, fun hjk => hd (hjk ▸ hj)⟩

/-! ## Holding -/

/-- The queue is sound, and a worker that holds a key was handed it by the queue and holds it alone.
-/
structure HeldBy (q : WorkQueue κ) (holds : Nat → κ → Prop) : Prop where
  queue : q.Sound
  held : ∀ i k, holds i k → k ∈ q.processing
  alone : ∀ i j k, holds i k → holds j k → i = j

theorem HeldBy.take {holds holds' : Nat → κ → Prop} {i : Nat} {q' : WorkQueue κ}
    (h : q.HeldBy holds) (hget : q.get = (.key k, q'))
    (hnew : ∀ j a, holds' j a → (j = i ∧ a = k) ∨ holds j a) : q'.HeldBy holds' := by
  have hfree (j : Nat) : ¬holds j k := fun hj =>
    h.queue.notMem_processing_of_get hget (h.held j k hj)
  constructor
  · exact h.queue.get hget
  · intro j a hj
    exact (mem_processing_get hget).mpr ((hnew j a hj).imp And.right (h.held j a))
  · intro j j' a hj hj'
    rcases hnew j a hj with ⟨rfl, rfl⟩ | hj
    · rcases hnew j' a hj' with ⟨rfl, -⟩ | hj'
      · rfl
      · exact absurd hj' (hfree j')
    · rcases hnew j' a hj' with ⟨rfl, rfl⟩ | hj'
      · exact absurd hj (hfree j)
      · exact h.alone j j' a hj hj'

theorem HeldBy.release {holds holds' : Nat → κ → Prop} {i : Nat} (h : q.HeldBy holds)
    (hk : holds i k) (hnew : ∀ j a, holds' j a → holds j a ∧ a ≠ k) : (q.done k).HeldBy holds' := by
  constructor
  · exact h.queue.done (h.held i k hk)
  · intro j a hj
    exact mem_processing_done.mpr ⟨h.held j a (hnew j a hj).1, (hnew j a hj).2⟩
  · intro j j' a hj hj'
    exact h.alone j j' a (hnew j a hj).1 (hnew j' a hj').1

/-! ## Settling -/

variable {ε α : Type} {backoff : Backoff}

/-- The three ways a key can be settled: its failures are forgotten, or one is counted and the key
is added again, at once or later. -/
theorem settle_cases (backoff : Backoff) (k : κ) (result : Except ε α) (q : WorkQueue κ) :
    ((∃ a, result = .ok a) ∧ q.settle backoff k result = (q.forget k, none)) ∨
    ((∃ e, result = .error e) ∧
      (q.settle backoff k result = ((q.countFailure k).add k, none) ∨
      q.closed = true ∧ q.settle backoff k result = (q.countFailure k, none) ∨
      ∃ delay, q.settle backoff k result = (q.countFailure k, some ⟨k, delay⟩))) := by
  cases result with
  | ok a => exact .inl ⟨⟨a, rfl⟩, rfl⟩
  | error e =>
      refine .inr ⟨⟨e, rfl⟩, ?_⟩
      simp only [settle, addRateLimited, addAfter]
      split
      · exact .inl rfl
      · split
        · exact .inr (.inl ⟨‹_›, rfl⟩)
        · exact .inr (.inr ⟨_, rfl⟩)

theorem settle_spec (backoff : Backoff) (k : κ) (result : Except ε α) (q : WorkQueue κ) :
    (q.settle backoff k result).1.processing = q.processing ∧
    (q.settle backoff k result).1.closed = q.closed ∧
    ∀ j ∈ q.dirty, j ∈ (q.settle backoff k result).1.dirty := by
  rcases settle_cases backoff k result q with ⟨-, h⟩ | ⟨-, h | ⟨-, h⟩ | ⟨delay, h⟩⟩
  · rw [h]
    exact ⟨rfl, rfl, fun j hj => hj⟩
  · rw [h]
    exact ⟨processing_add k _, closed_add k _, fun j hj => mem_dirty_add.mpr (.inl hj)⟩
  · rw [h]
    exact ⟨rfl, rfl, fun j hj => hj⟩
  · rw [h]
    exact ⟨rfl, rfl, fun j hj => hj⟩

/-- An open queue does not lose a key that failed: it is dirty, or will be added after a delay. -/
theorem retried_of_settle (backoff : Backoff) (k : κ) {result : Except ε α}
    (hopen : q.closed = false) (hfailed : ∀ a, result ≠ .ok a) :
    k ∈ (q.settle backoff k result).1.dirty ∨
    ∃ d, (q.settle backoff k result).2 = some d ∧ d.key = k := by
  rcases settle_cases backoff k result q with
    ⟨⟨a, ha⟩, -⟩ | ⟨-, h | ⟨hclosed, -⟩ | ⟨delay, h⟩⟩
  · exact absurd ha (hfailed a)
  · rw [h]
    exact .inl (mem_dirty_add.mpr (.inr ⟨rfl, hopen⟩))
  · rw [hopen] at hclosed
    cases hclosed
  · rw [h]
    exact .inr ⟨_, rfl, rfl⟩

theorem Sound.settle (h : q.Sound) (backoff : Backoff) (k : κ) (result : Except ε α) :
    (q.settle backoff k result).1.Sound := by
  have hcount : (q.countFailure k).Sound := h.congr rfl rfl rfl
  rcases settle_cases backoff k result q with ⟨-, he⟩ | ⟨-, he | ⟨-, he⟩ | ⟨delay, he⟩⟩
  · rw [he]
    exact h.congr rfl rfl rfl
  · rw [he]
    exact hcount.add k
  · rw [he]
    exact hcount
  · rw [he]
    exact hcount

end FaasOperator.WorkQueue
