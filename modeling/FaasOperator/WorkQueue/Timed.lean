/-
# `FaasOperator.WorkQueue.Timed` — a work queue under a clock of its own

The queue with its backoff, the adds that are put off, and the workers that wait in line for a key.
Time passes only through `fire`, which moves the clock and makes the adds that are due by then.
-/
import FaasOperator.Agenda
import FaasOperator.Duration
import FaasOperator.WorkQueue

namespace FaasOperator

/-- A queue, the delayed adds to it, and the workers that wait, first come first served. -/
structure TimedQueue (κ : Type) where
  queue : WorkQueue κ
  backoff : Backoff
  agenda : Agenda κ
  waiters : List String
deriving DecidableEq

/-- A worker that waits no longer, with the key that it got, or none if the queue is closed. -/
structure Wakeup (κ : Type) where
  worker : String
  key : Option κ
deriving DecidableEq

namespace TimedQueue

variable {κ : Type}

def empty (backoff : Backoff) : TimedQueue κ := ⟨.empty, backoff, .empty, []⟩

def mapQueue (f : WorkQueue κ → WorkQueue κ) (t : TimedQueue κ) : TimedQueue κ :=
  { t with queue := f t.queue }

/-- Takes over a queue and the delayed add that came with it. -/
def withDelayed (t : TimedQueue κ) (r : WorkQueue κ × Option (Delayed κ)) : TimedQueue κ :=
  { t with
    queue := r.1
    agenda := match r.2 with
      | none => t.agenda
      | some d => t.agenda.scheduleIn d.delay.nanos d.key }

variable [DecidableEq κ]

def addAfter (k : κ) (delay : Duration) (t : TimedQueue κ) : TimedQueue κ :=
  t.withDelayed (t.queue.addAfter k delay)

/-- Adds a failed key after its backoff delay. -/
def addRateLimited (k : κ) (t : TimedQueue κ) : TimedQueue κ :=
  t.withDelayed (t.queue.addRateLimited t.backoff k)

/-- Moves the clock and makes every add that is due. -/
def fire (nanos : Nat) (t : TimedQueue κ) : TimedQueue κ :=
  let (due, agenda) := (t.agenda.advance nanos).takeAllDue
  { t with queue := t.queue.addAll (due.map (·.action)), agenda := agenda }

/-- Serves the workers as far as there is something for them. -/
def serve (q : WorkQueue κ) : List String → List (Wakeup κ) × List String × WorkQueue κ
  | [] => ([], [], q)
  | w :: ws =>
      match q.get with
      | (.pending, q) => ([], w :: ws, q)
      | (.closed, q) =>
          let (woken, left, q) := serve q ws
          (⟨w, none⟩ :: woken, left, q)
      | (.key k, q) =>
          let (woken, left, q) := serve q ws
          (⟨w, some k⟩ :: woken, left, q)

/-- Serves the workers that wait. -/
def wake (t : TimedQueue κ) : List (Wakeup κ) × TimedQueue κ :=
  let (woken, waiters, queue) := serve t.queue t.waiters
  (woken, { t with queue := queue, waiters := waiters })

/-- Moves the clock once and serves the workers that wait. -/
def jump (nanos : Nat) (t : TimedQueue κ) : List (Wakeup κ) × TimedQueue κ := (t.fire nanos).wake

/-- Moves the clock so many times by the same amount; `woken` are the workers served before. -/
def advance (nanos : Nat) : Nat → List (Wakeup κ) → TimedQueue κ → List (Wakeup κ) × TimedQueue κ
  | 0, woken, t => (woken, t)
  | n + 1, woken, t =>
      let (more, t) := t.jump nanos
      advance nanos n (woken ++ more) t

end TimedQueue

end FaasOperator
