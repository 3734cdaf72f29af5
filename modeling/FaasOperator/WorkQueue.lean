/-
# `FaasOperator.WorkQueue` — a work queue without duplicates

A key that needs processing is dirty; it waits in line unless a worker holds it, and then it gets in
line when the worker is done with it.  So no key is ever held twice, and however often a key is
added while it is dirty, it is handed out once.

The queue also counts the failures of each key, from which the delay of the next retry follows.
Delayed adds are not kept here: an operation that delays one says so, and whoever keeps the time
adds the key when it is due.

Each operation is what one caller does while it has the queue to itself.  What holds of a queue that
many callers share is proved over the runs of these operations, in the modules under
`FaasOperator.Proofs.WorkQueue`.
-/
import FaasOperator.Backoff

namespace FaasOperator

/-- Keys in need of processing. -/
structure WorkQueue (κ : Type) where
  /-- Keys ready to be handed out, first come first served. -/
  waiting : List κ
  /-- Keys that need processing, whether they wait or not. -/
  dirty : List κ
  /-- Keys that a worker holds. -/
  processing : List κ
  /-- How often each key has failed in a row, zero being left out. -/
  failures : List (κ × Nat)
  /-- The queue takes no more keys. -/
  closed : Bool
deriving DecidableEq

/-- What a worker gets that asks for a key. -/
inductive Take (κ : Type) where
  | key (k : κ)
  /-- Nothing waits; the worker has to wait itself. -/
  | pending
  /-- Nothing waits and nothing will. -/
  | closed
deriving DecidableEq

/-- An add that is to happen after a delay. -/
structure Delayed (κ : Type) where
  key : κ
  delay : Duration
deriving DecidableEq

namespace WorkQueue

variable {κ : Type}

def empty : WorkQueue κ := ⟨[], [], [], [], false⟩

def length (q : WorkQueue κ) : Nat := q.waiting.length

def isEmpty (q : WorkQueue κ) : Bool := q.waiting.isEmpty

/-- Takes no more keys from now on. -/
def shutdown (q : WorkQueue κ) : WorkQueue κ := { q with closed := true }

variable [DecidableEq κ]

/-- Marks a key as in need of processing.  It gets in line unless a worker holds it. -/
def add (k : κ) (q : WorkQueue κ) : WorkQueue κ :=
  if q.closed || q.dirty.contains k then q
  else if q.processing.contains k then { q with dirty := k :: q.dirty }
  else { q with dirty := k :: q.dirty, waiting := q.waiting ++ [k] }

/-- Adds the keys one after the other. -/
def addAll (ks : List κ) (q : WorkQueue κ) : WorkQueue κ := ks.foldl (fun q k => q.add k) q

/-- Hands out the first key in line; the worker holds it until it is done. -/
def get (q : WorkQueue κ) : Take κ × WorkQueue κ :=
  match q.waiting with
  | k :: ks =>
      (.key k, { q with
        waiting := ks
        dirty := q.dirty.filter (· != k)
        processing := k :: q.processing.filter (· != k) })
  | [] => (if q.closed then .closed else .pending, q)

/-- The worker is done with a key.  If it was added meanwhile, it gets in line. -/
def done (k : κ) (q : WorkQueue κ) : WorkQueue κ :=
  { q with
    processing := q.processing.filter (· != k)
    waiting := if q.dirty.contains k then q.waiting ++ [k] else q.waiting }

/-! ## Retries -/

/-- The largest number of failures that is counted. -/
def maxFailures : Nat := UInt32.size - 1

/-- How often a key has failed in a row. -/
def numRequeues (k : κ) (q : WorkQueue κ) : Nat := (q.failures.lookup k).getD 0

/-- Forgets the failures of a key. -/
def forget (k : κ) (q : WorkQueue κ) : WorkQueue κ :=
  { q with failures := q.failures.filter fun e => e.1 != k }

/-- Counts one more failure of a key. -/
def countFailure (k : κ) (q : WorkQueue κ) : WorkQueue κ :=
  { q.forget k with
    failures := (k, min (q.numRequeues k + 1) maxFailures) :: (q.forget k).failures }

/-- Adds a key after a delay.  Without a delay it is added at once, and a closed queue takes none.
-/
def addAfter (k : κ) (delay : Duration) (q : WorkQueue κ) : WorkQueue κ × Option (Delayed κ) :=
  if delay.isZero then (q.add k, none)
  else if q.closed then (q, none)
  else (q, some ⟨k, delay⟩)

/-- Adds a failed key after the delay that its earlier failures call for. -/
def addRateLimited (backoff : Backoff) (k : κ) (q : WorkQueue κ) :
    WorkQueue κ × Option (Delayed κ) :=
  (q.countFailure k).addAfter k (backoff.delay (q.numRequeues k))

end WorkQueue

end FaasOperator
