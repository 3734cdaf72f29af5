/-
# `FaasOperator.Controller` — what becomes of a key after its reconcile

A worker takes a key from the queue and reconciles it.  Then it tells the queue how that ended:
after a success the failures of the key are forgotten, and after a failure it is counted and the key
added again after its backoff delay (`WorkQueue.settle`).  Either way the worker is done with the
key (`WorkQueue.release`).  The metrics count the results by name.
-/
import FaasOperator.Metrics
import FaasOperator.Reconcile
import FaasOperator.WorkQueue

namespace FaasOperator

/-- What the controller counts. -/
structure ControllerMetrics where
  /-- Completed reconciles, by outcome. -/
  reconciles : MetricFamily
  /-- Failed reconciles that are to be tried again. -/
  requeues : Nat
  /-- Keys that waited when a worker last took one. -/
  queueDepth : Nat
deriving DecidableEq

def resultLabel : Except ReconcileError Outcome → String
  | .ok outcome => outcome.render
  | .error _ => "error"

namespace ControllerMetrics

def empty : ControllerMetrics := ⟨∅, 0, 0⟩

/-- Notes how many keys wait. -/
def setQueueDepth (m : ControllerMetrics) (n : Nat) : ControllerMetrics :=
  { m with queueDepth := n }

/-- Counts a completed reconcile, and a retry if it failed. -/
def reconciled (m : ControllerMetrics) (result : Except ReconcileError Outcome) :
    ControllerMetrics :=
  { m with
    reconciles := m.reconciles.inc (resultLabel result)
    requeues := match result with
      | .ok _ => m.requeues
      | .error _ => m.requeues + 1 }

/-- The samples, each name behind the given one. -/
def samples (m : ControllerMetrics) (scope : String) : List (String × Nat) :=
  m.reconciles.samples (scope ++ "_reconciles_total") "outcome" ++
    [(scope ++ "_requeues_total", m.requeues), (scope ++ "_queue_depth", m.queueDepth)]

end ControllerMetrics

namespace WorkQueue

variable {κ : Type} [DecidableEq κ]

/-- What becomes of a key after its reconcile, before the worker is done with it: a success wipes
out the failures before it, a failure counts and asks for a retry. -/
def settle {ε α : Type} (backoff : Backoff) (k : κ) (result : Except ε α) (q : WorkQueue κ) :
    WorkQueue κ × Option (Delayed κ) :=
  match result with
  | .ok _ => (q.forget k, none)
  | .error _ => q.addRateLimited backoff k

/-- Settles a key and is done with it. -/
def release {ε α : Type} (backoff : Backoff) (k : κ) (result : Except ε α) (q : WorkQueue κ) :
    WorkQueue κ × Option (Delayed κ) :=
  ((q.settle backoff k result).1.done k, (q.settle backoff k result).2)

end WorkQueue

end FaasOperator
