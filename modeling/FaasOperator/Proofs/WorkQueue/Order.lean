/-
# `FaasOperator.Proofs.WorkQueue.Order` — first come, first served

Whatever happens to a shared queue, keys get in line behind those that wait already, and leave the
line at the front.  So what was handed out since some moment, followed by what waits now, begins
with what waited then (`Run.line`).

Hence the statement about a key at position `p` of the line (`taken_in_turn`), whoever adds or
releases what in the meantime: it is not among the next `p` keys that are handed out, it is the one
after them, and until then it stays in line, behind as many as remain of them; and every worker that
asks is given the next one.
-/
import FaasOperator.Proofs.WorkQueue.Shared

namespace FaasOperator

namespace QueueEvent

variable {κ : Type}

def taken? : QueueEvent κ → Option κ
  | .took _ k => some k
  | _ => none

def handedOut (t : List (QueueEvent κ)) : List κ := (t.filterMap taken?).reverse

theorem handedOut_cons (e : QueueEvent κ) (t : List (QueueEvent κ)) :
    handedOut (e :: t) = handedOut t ++ e.taken?.toList := by
  cases h : e.taken? <;> simp [handedOut, h]

end QueueEvent

variable {κ : Type} [DecidableEq κ]

/-! ## The line moves on -/

namespace WorkQueue

theorem waiting_add (k : κ) (q : WorkQueue κ) : q.waiting <+: (q.add k).waiting := by
  rcases add_cases k q with ⟨-, h⟩ | ⟨-, -, -, h⟩ | ⟨-, -, -, h⟩
  · exact ⟨[], by rw [h, List.append_nil]⟩
  · exact ⟨[], by rw [h, List.append_nil]⟩
  · exact ⟨[k], by rw [h]⟩

theorem waiting_done (k : κ) (q : WorkQueue κ) : q.waiting <+: (q.done k).waiting := by
  show q.waiting <+: if q.dirty.contains k then q.waiting ++ [k] else q.waiting
  split
  · exact List.prefix_append ..
  · exact List.prefix_rfl

theorem get_of_head {q : WorkQueue κ} {k : κ} (h : q.waiting[0]? = some k) :
    ∃ q', q.get = (.key k, q') := by
  cases hw : q.waiting with
  | nil => simp [hw] at h
  | cons a ks =>
      obtain rfl : a = k := by simpa [hw] using h
      rw [get, hw]
      exact ⟨_, rfl⟩

end WorkQueue

namespace SharedQueue

open QueueEvent (handedOut handedOut_cons)

variable {backoff : Backoff} {w w' : SharedQueue κ} {t t₀ : List (QueueEvent κ)}
  {e : QueueEvent κ} {k : κ} {i p : Nat}

/-- A step hands out the first in line, or nobody leaves the line; others get in line behind. -/
theorem Step.line (h : Step backoff w e w') :
    w.queue.waiting <+: e.taken?.toList ++ w'.queue.waiting := by
  cases h.effect with
  | add hq _ =>
      rw [hq]
      exact WorkQueue.waiting_add ..
  | take hget _ =>
      obtain ⟨ks, hwaiting, hq⟩ := WorkQueue.get_eq_key hget
      rw [hwaiting, hq]
      exact List.prefix_rfl
  | release _ hq _ =>
      rw [hq]
      exact WorkQueue.waiting_done ..
  | rest _ htake _ hwaiting _ _ _ =>
      have hnone : e.taken? = none := by
        cases e with
        | took i k => exact absurd rfl (htake i k)
        | _ => rfl
      rw [hnone, hwaiting]
      exact List.prefix_rfl

/-- What was handed out, followed by what waits now, begins with what waited before. -/
theorem Run.line (h : Run backoff w t w') :
    w.queue.waiting <+: handedOut t ++ w'.queue.waiting := by
  induction h with
  | nil => exact List.prefix_rfl
  | step _ hs ih =>
      rw [handedOut_cons, List.append_assoc]
      exact ih.trans ((List.prefix_append_right_inj _).mpr hs.line)

/-- Each place in line is the place among those handed out, and what remains of it in the line. -/
theorem Run.getElem?_line (h : Run backoff w t w') (hi : i < w.queue.waiting.length) :
    (handedOut t ++ w'.queue.waiting)[i]? = w.queue.waiting[i]? := by
  obtain ⟨joined, hjoined⟩ := h.line
  rw [← hjoined, List.getElem?_append_left hi]

/-! ## Taking turns -/

/-- A key that waits at position `p` is the one that is handed out after `p` others, and it is not
among these.  Until then it stays in line, behind as many as remain of them; and every worker that
asks for a key gets the next of them, or the key itself when none remains. -/
theorem taken_in_turn (h₀ : Run backoff start t₀ w) (h : Run backoff w t w')
    (hk : w.queue.waiting[p]? = some k) :
    k ∉ (handedOut t).take p ∧
    (p < (handedOut t).length → (handedOut t)[p]? = some k) ∧
    ((handedOut t).length ≤ p →
      w'.queue.waiting[p - (handedOut t).length]? = some k ∧
      ∀ i, ∃ a w'', w.queue.waiting[(handedOut t).length]? = some a ∧
        Step backoff w' (.took i a) w'') := by
  have hnodup := (h₀.orderly orderly_start).heldBy.queue.nodup
  have hp : p < w.queue.waiting.length := (List.getElem?_eq_some_iff.mp hk).1
  refine ⟨fun hmem => ?_, fun hlt => ?_, fun hle => ⟨?_, fun i => ?_⟩⟩
  · -- whoever was handed out before had a place in line before
    obtain ⟨j, hj, hjk⟩ := List.mem_take_iff_getElem.mp hmem
    have hjp : j < p := by omega
    have hplace := h.getElem?_line (Nat.lt_trans hjp hp)
    rw [List.getElem?_append_left (by omega), List.getElem?_eq_getElem (by omega), hjk, ← hk]
      at hplace
    exact absurd ((List.getElem?_inj hp hnodup).mp hplace) (Nat.ne_of_gt hjp)
  · rw [← List.getElem?_append_left hlt, h.getElem?_line hp, hk]
  · rw [← List.getElem?_append_right hle, h.getElem?_line hp, hk]
  · have hnext : (handedOut t).length < w.queue.waiting.length := Nat.lt_of_le_of_lt hle hp
    have hhead := h.getElem?_line hnext
    rw [List.getElem?_append_right (Nat.le_refl _), Nat.sub_self,
      List.getElem?_eq_getElem hnext] at hhead
    obtain ⟨q, hget⟩ := WorkQueue.get_of_head hhead
    exact ⟨_, _, List.getElem?_eq_getElem hnext, .take hget⟩

/-- Two keys wait.  Then the second one is added again, and a third one; the first one is taken, is
added again while it is held, and gets in line when it is released, though the queue is closed by
then.  The second one is next. -/
theorem taken_in_turn_readded :
    ∃ t, ∃ w w' : SharedQueue String,
      Run .default start [.added "b" true, .added "a" true] w ∧ Run .default w t w' ∧
      w.queue.waiting[1]? = some "b" ∧ (handedOut t).length ≤ 1 ∧
      w'.queue.waiting = ["b", "c", "a"] ∧ ∃ w'', Step .default w' (.took 1 "b") w'' := by
  let w : SharedQueue String := { start with queue := (start.queue.add "a").add "b" }
  have h₀ : Run .default start [.added "b" true, .added "a" true] w :=
    (Run.nil.step (.add (k := "a"))).step (.add (k := "b"))
  have h₁ : Run .default w [.added "b" false] _ := Run.nil.step (.add (k := "b"))
  have h₂ := h₁.step (.add (k := "c"))
  have h₃ := h₂.step (.take (i := 0) (k := "a") rfl)
  have h₄ := h₃.step (.add (k := "a"))
  have h₅ := h₄.step .close
  have h := h₅.step (.release (i := 0) (k := "a") List.mem_cons_self)
  obtain ⟨-, -, hwaits⟩ := taken_in_turn h₀ h (p := 1) (k := "b") rfl
  obtain ⟨a, w'', ha, hs⟩ := (hwaits (by decide)).2 1
  obtain rfl : "b" = a := Option.some.inj ha
  exact ⟨_, w, _, h₀, h, rfl, by decide, rfl, w'', hs⟩

end SharedQueue

end FaasOperator
