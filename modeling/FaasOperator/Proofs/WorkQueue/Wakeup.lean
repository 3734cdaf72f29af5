/-
# `FaasOperator.Proofs.WorkQueue.Wakeup` — waiting for keys

A caller that asks for a key registers for a wakeup, then looks at the queue, and only if there is
nothing to get does it wait, until it is woken and starts over.  Whoever puts a key in line or
closes the queue wakes everybody afterwards, in a step of its own: all callers that have registered
by then, whether they wait already or not.

## What is proved

A queue can have keys in line, or be closed, while callers wait for a wakeup that is still owed to
them.  But in every state in which none is owed (`nothing_ready_of_asleep`):

* if somebody waits and has not been woken, then no key is in line and the queue is not closed;
* if there is a key in line, or the queue is closed, everybody who asks is answered by going on
  alone.

The steps may be interleaved in any way, and nothing is supposed of who is done with which key.

## How

A caller that is about to wait looked at the queue after it had registered.  So if something was put
in line since, the wakeup that goes with it is still owed, or has reached the caller (`Vigilant`).
-/
import Mathlib.Logic.Function.Basic
import Mathlib.Logic.Relation
import FaasOperator.Proofs.WorkQueue.Sound

namespace FaasOperator

/-- What may put a key in line, or close the queue. -/
inductive QueueUpdate (κ : Type) where
  | add (key : κ)
  | done (key : κ)
  | shutdown

/-- How far a caller is that asks for keys. -/
inductive Asking where
  /-- It does not ask, or has been answered. -/
  | out
  /-- It is registered, and has yet to look at the queue; it may have been woken since. -/
  | registered (woken : Bool)
  /-- It found nothing and waits until it is woken. -/
  | asleep (woken : Bool)

/-- Everybody who has registered is woken. -/
def Asking.wake : Asking → Asking
  | .out => .out
  | .registered _ => .registered true
  | .asleep _ => .asleep true

namespace QueueUpdate

variable {κ : Type} [DecidableEq κ]

def apply : QueueUpdate κ → WorkQueue κ → WorkQueue κ
  | .add k, q => q.add k
  | .done k, q => q.done k
  | .shutdown, q => q.shutdown

/-- The update is followed by a wakeup: the key gets in line, or the queue is closed. -/
def wakes (q : WorkQueue κ) : QueueUpdate κ → Bool
  | .add k => !(q.closed || q.dirty.contains k) && !q.processing.contains k
  | .done k => q.dirty.contains k
  | .shutdown => true

/-- An update without a wakeup puts no key in line, and does not close the queue. -/
theorem apply_of_not_wakes {u : QueueUpdate κ} {q : WorkQueue κ} (h : u.wakes q = false) :
    (u.apply q).waiting = q.waiting ∧ (u.apply q).closed = q.closed := by
  cases u with
  | add k =>
      rcases WorkQueue.add_cases k q with ⟨-, he⟩ | ⟨-, -, -, he⟩ | ⟨hopen, hd, hp, -⟩
      · rw [apply, he]
        exact ⟨rfl, rfl⟩
      · rw [apply, he]
        exact ⟨rfl, rfl⟩
      · simp [wakes, hopen, hd, hp] at h
  | done k =>
      have hd : q.dirty.contains k = false := h
      refine ⟨?_, rfl⟩
      show (if q.dirty.contains k then q.waiting ++ [k] else q.waiting) = q.waiting
      rw [hd]
      rfl
  | shutdown => cases h

end QueueUpdate

/-- A queue, and those who wait for its keys. -/
structure NotifiedQueue (κ : Type) where
  queue : WorkQueue κ
  /-- Adds that wait for their time. -/
  delayed : List (Delayed κ)
  /-- How many updates have yet to be followed by their wakeup. -/
  owed : Nat
  asking : Nat → Asking

namespace NotifiedQueue

variable {κ : Type}

def start : NotifiedQueue κ := ⟨.empty, [], 0, fun _ => .out⟩

def setAsking (w : NotifiedQueue κ) (g : Nat) (s : Asking) (q : WorkQueue κ) : NotifiedQueue κ :=
  { w with queue := q, asking := Function.update w.asking g s }

theorem asking_setAsking_self (w : NotifiedQueue κ) (g : Nat) (s : Asking) (q : WorkQueue κ) :
    (w.setAsking g s q).asking g = s :=
  Function.update_self ..

theorem asking_setAsking_of_ne (w : NotifiedQueue κ) {g j : Nat} (h : j ≠ g) (s : Asking)
    (q : WorkQueue κ) : (w.setAsking g s q).asking j = w.asking j :=
  Function.update_of_ne h ..

variable {w w' : NotifiedQueue κ} {g : Nat}

/-- There is nothing to get, and may yet be. -/
def Idle (w : NotifiedQueue κ) : Prop := w.queue.waiting = [] ∧ w.queue.closed = false

/-- If somebody waits and is not woken, a wakeup is owed, or there is nothing to get. -/
def Vigilant (w : NotifiedQueue κ) : Prop :=
  ∀ g, w.asking g = .asleep false → 0 < w.owed ∨ w.Idle

theorem vigilant_start : (start : NotifiedQueue κ).Vigilant := nofun

theorem Vigilant.setAsking (h : w.Vigilant) {s : Asking} {q : WorkQueue κ}
    (hmine : s = .asleep false → (w.setAsking g s q).Idle)
    (hidle : w.Idle → (w.setAsking g s q).Idle) : (w.setAsking g s q).Vigilant := by
  intro j hj
  by_cases hjg : j = g
  · rw [hjg, asking_setAsking_self] at hj
    exact .inr (hmine hj)
  · rw [asking_setAsking_of_ne w hjg] at hj
    exact (h j hj).imp id hidle

/-! ## Steps -/

variable [DecidableEq κ]

/-- An update is made; its wakeup, if there is to be one, comes later. -/
def update (w : NotifiedQueue κ) (u : QueueUpdate κ) : NotifiedQueue κ :=
  { w with queue := u.apply w.queue, owed := w.owed + (u.wakes w.queue).toNat }

/-- What a caller does next that asks for a key. -/
inductive GetStep (g : Nat) : NotifiedQueue κ → NotifiedQueue κ → Prop
  | register {w : NotifiedQueue κ} :
      w.asking g = .out → GetStep g w (w.setAsking g (.registered false) w.queue)
  | take {w : NotifiedQueue κ} {woken : Bool} {k : κ} {q : WorkQueue κ} :
      w.asking g = .registered woken → w.queue.get = (.key k, q) →
      GetStep g w (w.setAsking g .out q)
  | leave {w : NotifiedQueue κ} {woken : Bool} {q : WorkQueue κ} :
      w.asking g = .registered woken → w.queue.get = (.closed, q) →
      GetStep g w (w.setAsking g .out q)
  | sleep {w : NotifiedQueue κ} {woken : Bool} {q : WorkQueue κ} :
      w.asking g = .registered woken → w.queue.get = (.pending, q) →
      GetStep g w (w.setAsking g (.asleep woken) q)
  | again {w : NotifiedQueue κ} :
      w.asking g = .asleep true → GetStep g w (w.setAsking g (.registered false) w.queue)

/-- What can happen next. -/
inductive Step : NotifiedQueue κ → NotifiedQueue κ → Prop
  | update {w : NotifiedQueue κ} (u : QueueUpdate κ) : Step w (w.update u)
  | putOff {w : NotifiedQueue κ} {d : Delayed κ} :
      d.delay.isZero = false →
      Step w { w with
        queue := (w.queue.addAfter d.key d.delay).1
        delayed := w.delayed ++ (w.queue.addAfter d.key d.delay).2.toList }
  | fire {w : NotifiedQueue κ} {d : Delayed κ} :
      d ∈ w.delayed → Step w { w.update (.add d.key) with delayed := w.delayed.erase d }
  | countFailure {w : NotifiedQueue κ} (k : κ) :
      Step w { w with queue := w.queue.countFailure k }
  | forget {w : NotifiedQueue κ} (k : κ) : Step w { w with queue := w.queue.forget k }
  | wake {w : NotifiedQueue κ} :
      0 < w.owed → Step w { w with owed := w.owed - 1, asking := fun g => (w.asking g).wake }
  | get {w w' : NotifiedQueue κ} {g : Nat} : GetStep g w w' → Step w w'

/-- The states that steps lead to, in any order. -/
inductive Reachable : NotifiedQueue κ → Prop
  | start : Reachable start
  | step {w w' : NotifiedQueue κ} : Reachable w → Step w w' → Reachable w'

/-! ## Nobody waits in vain -/

theorem idle_of_pending {q : WorkQueue κ} (h : w.queue.get = (.pending, q)) :
    w.Idle ∧ q = w.queue := by
  unfold WorkQueue.get at h
  split at h
  · cases h
  · rename_i hwaiting
    split at h
    · cases h
    · rename_i hopen
      cases h
      exact ⟨⟨hwaiting, Bool.not_eq_true _ ▸ hopen⟩, rfl⟩

theorem Idle.get_eq (h : w.Idle) : w.queue.get = (.pending, w.queue) := by
  obtain ⟨hwaiting, hopen⟩ := h
  unfold WorkQueue.get
  rw [hwaiting, hopen]
  rfl

/-- An update either owes a wakeup or changes nothing for those who wait. -/
theorem Vigilant.update (h : w.Vigilant) (u : QueueUpdate κ) : (w.update u).Vigilant := by
  intro g hg
  cases hu : u.wakes w.queue with
  | true =>
      refine .inl ?_
      show 0 < w.owed + (u.wakes w.queue).toNat
      rw [hu]
      exact Nat.succ_pos w.owed
  | false =>
      obtain ⟨hwaiting, hclosed⟩ := QueueUpdate.apply_of_not_wakes hu
      rcases h g hg with howed | hidle
      · exact .inl (Nat.add_pos_left howed _)
      · exact .inr ⟨hwaiting.trans hidle.1, hclosed.trans hidle.2⟩

theorem Vigilant.getStep (h : w.Vigilant) (hs : GetStep g w w') : w'.Vigilant := by
  cases hs with
  | register _ => exact h.setAsking nofun fun hidle => hidle
  | again _ => exact h.setAsking nofun fun hidle => hidle
  | take _ hget =>
      refine h.setAsking nofun fun hidle => ?_
      rw [hidle.get_eq] at hget
      cases hget
  | leave _ hget =>
      refine h.setAsking nofun fun hidle => ?_
      rw [hidle.get_eq] at hget
      cases hget
  | sleep _ hget =>
      -- it looked at the queue in this very step
      obtain ⟨hidle, rfl⟩ := idle_of_pending hget
      exact h.setAsking (fun _ => hidle) fun _ => hidle

theorem Vigilant.step (h : w.Vigilant) (hs : Step w w') : w'.Vigilant := by
  cases hs with
  | update u => exact h.update u
  | @putOff d hlater =>
      have hq := WorkQueue.fst_addAfter_of_not_isZero (q := w.queue) (k := d.key) hlater
      intro g hg
      rw [Idle, hq]
      exact h g hg
  | fire _ => exact h.update _
  | countFailure k => exact h
  | forget k => exact h
  | wake _ =>
      -- nobody is left who waits and is not woken
      intro g hg
      have hg : (w.asking g).wake = .asleep false := hg
      cases hasking : w.asking g with
      | out | registered _ | asleep _ =>
          rw [hasking] at hg
          cases hg
  | get hs => exact h.getStep hs

theorem Reachable.vigilant (h : Reachable w) : w.Vigilant := by
  induction h with
  | start => exact vigilant_start
  | step _ hs ih => exact ih.step hs

/-- A caller that looks at a queue with something to get, or a closed one, is answered. -/
theorem answered_of_registered {woken : Bool} (h : w.asking g = .registered woken)
    (hready : ¬w.Idle) : ∃ w', GetStep g w w' ∧ w'.asking g = .out := by
  rcases hget : w.queue.get with ⟨answer, q⟩
  cases answer with
  | key k => exact ⟨_, .take h hget, asking_setAsking_self ..⟩
  | closed => exact ⟨_, .leave h hget, asking_setAsking_self ..⟩
  | pending => exact absurd (idle_of_pending hget).1 hready

/-- In every state in which no wakeup is owed, if somebody waits and has not been woken, then no key
is in line and the queue is not closed.  So if there is something to get, or the queue is closed,
everybody who asks is answered without the others having to do anything. -/
theorem nothing_ready_of_asleep (h : Reachable w) (hsettled : w.owed = 0) :
    (∀ g, w.asking g = .asleep false → w.queue.waiting = [] ∧ w.queue.closed = false) ∧
    (w.queue.waiting ≠ [] ∨ w.queue.closed = true →
      ∀ g, w.asking g ≠ .out →
        ∃ w', Relation.ReflTransGen (GetStep g) w w' ∧ w'.asking g = .out) := by
  have hasleep : ∀ g, w.asking g = .asleep false → w.Idle := by
    intro g hg
    rcases h.vigilant g hg with howed | hidle
    · rw [hsettled] at howed
      exact absurd howed (Nat.lt_irrefl 0)
    · exact hidle
  refine ⟨hasleep, fun hready g hg => ?_⟩
  have hready : ¬w.Idle := by
    rintro ⟨hwaiting, hopen⟩
    rcases hready with hready | hclosed
    · exact hready hwaiting
    · rw [hopen] at hclosed
      cases hclosed
  cases hasking : w.asking g with
  | out => exact absurd hasking hg
  | registered woken =>
      obtain ⟨w', hs, hout⟩ := answered_of_registered hasking hready
      exact ⟨w', .single hs, hout⟩
  | asleep woken =>
      cases woken with
      | false => exact absurd (hasleep g hasking) hready
      | true =>
          have hregister := GetStep.again hasking
          obtain ⟨w', hs, hout⟩ := answered_of_registered
            (w := w.setAsking g (.registered false) w.queue) (asking_setAsking_self ..) hready
          exact ⟨w', .head hregister (.single hs), hout⟩

/-- A caller waits and another has registered when two keys get in line before anybody is woken.  The
first wakeup reaches both, and the second caller takes its key before the other wakeup; by then the
first one is woken, and can be answered whatever the others do.  A third registers before it starts
over and takes the other key, but looks too late, and waits. -/
theorem nothing_ready_of_asleep_late :
    ∃ w₀ w₁ w₂ w₃ w₄ w₅ w₆ w₇ w : NotifiedQueue String,
      (Reachable w₀ ∧ w₀.asking 0 = .asleep false ∧ w₀.asking 1 = .registered false) ∧
      (w₁ = (w₀.update (.add "echo")).update (.add "figlet") ∧ w₁.owed = 2 ∧
        w₁.queue.waiting = ["echo", "figlet"] ∧ w₁.asking 0 = .asleep false) ∧
      (Step w₁ w₂ ∧ w₂.owed = 1 ∧ w₂.asking 0 = .asleep true ∧ w₂.asking 1 = .registered true) ∧
      (GetStep 1 w₂ w₃ ∧ w₂.queue.get = (.key "echo", w₃.queue) ∧ w₃.asking 1 = .out) ∧
      (Step w₃ w₄ ∧ w₄.owed = 0 ∧
        ∃ w', Relation.ReflTransGen (GetStep 0) w₄ w' ∧ w'.asking 0 = .out) ∧
      (GetStep 2 w₄ w₅ ∧ GetStep 0 w₅ w₆ ∧ w₆.asking 2 = .registered false) ∧
      (GetStep 0 w₆ w₇ ∧ w₆.queue.get = (.key "figlet", w₇.queue) ∧ w₇.asking 0 = .out) ∧
      GetStep 2 w₇ w ∧ w.owed = 0 ∧ w.asking 2 = .asleep false ∧
      w.queue.processing = ["figlet", "echo"] ∧ w.queue.waiting = [] ∧
      w.queue.closed = false := by
  have next {w w' : NotifiedQueue String} {g : Nat} (h : Reachable w) (hs : GetStep g w w') :
      GetStep g w w' ∧ Reachable w' := ⟨hs, h.step (.get hs)⟩
  have next' {w w' : NotifiedQueue String} (h : Reachable w) (hs : Step w w') :
      Step w w' ∧ Reachable w' := ⟨hs, h.step hs⟩
  have hstart : Reachable (start : NotifiedQueue String) := .start
  obtain ⟨-, hregistered⟩ := next (g := 0) hstart (.register rfl)
  obtain ⟨-, hasleep⟩ := next (g := 0) hregistered (.sleep rfl rfl)
  obtain ⟨-, h₀⟩ := next (g := 1) hasleep (.register rfl)
  have h₁ := (h₀.step (.update (.add "echo"))).step (.update (.add "figlet"))
  obtain ⟨hwake, h₂⟩ := next' h₁ (.wake (by decide))
  obtain ⟨htake, h₃⟩ := next (g := 1) h₂ (.take rfl rfl)
  obtain ⟨hwake', h₄⟩ := next' h₃ (.wake (by decide))
  obtain ⟨hregister, h₅⟩ := next (g := 2) h₄ (.register rfl)
  obtain ⟨hagain, h₆⟩ := next (g := 0) h₅ (.again rfl)
  obtain ⟨htake', h₇⟩ := next (g := 0) h₆ (.take rfl rfl)
  obtain ⟨hsleep, h⟩ := next (g := 2) h₇ (.sleep rfl rfl)
  obtain ⟨-, hanswered⟩ := nothing_ready_of_asleep h₄ rfl
  obtain ⟨hidle, -⟩ := nothing_ready_of_asleep h rfl
  exact ⟨_, _, _, _, _, _, _, _, _, ⟨h₀, rfl, rfl⟩, ⟨rfl, rfl, rfl, rfl⟩, ⟨hwake, rfl, rfl, rfl⟩,
    ⟨htake, rfl, rfl⟩, ⟨hwake', rfl, hanswered (.inl nofun) 0 nofun⟩, ⟨hregister, hagain, rfl⟩,
    ⟨htake', rfl, rfl⟩, hsleep, rfl, rfl, rfl, hidle 2 rfl⟩

end NotifiedQueue

end FaasOperator
