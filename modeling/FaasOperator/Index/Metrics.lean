/-
# `FaasOperator.Index.Metrics` — what the index counts

The objects that it holds by namespace, the keys that it enqueues by cause, and the notifications
that enqueue nothing by reason.
-/
import FaasOperator.Metrics

namespace FaasOperator

/-- What caused a key to be enqueued. -/
inductive Cause where
  | function
  | ownedDeployment
  | resync
deriving DecidableEq

def Cause.label : Cause → String
  | .function => "function"
  | .ownedDeployment => "deployment"
  | .resync => "resync"

/-- Why a notification enqueued nothing. -/
inductive Ignored where
  /-- The object has no namespace or no name. -/
  | malformed
  /-- The Deployment is not controlled by a function. -/
  | unmanaged
  /-- The function that controls the Deployment is not cached. -/
  | orphaned
  /-- The Deployment was cached before at the same resource version. -/
  | unchanged
  /-- A Deployment was deleted that was never cached. -/
  | unknownDelete
deriving DecidableEq

def Ignored.label : Ignored → String
  | .malformed => "malformed"
  | .unmanaged => "unmanaged"
  | .orphaned => "orphaned"
  | .unchanged => "unchanged"
  | .unknownDelete => "unknown_delete"

structure IndexMetrics where
  functions : MetricFamily
  deployments : MetricFamily
  enqueues : MetricFamily
  ignored : MetricFamily
deriving DecidableEq

namespace IndexMetrics

def empty : IndexMetrics := ⟨∅, ∅, ∅, ∅⟩

/-- Sets the numbers of objects held in a namespace. -/
def setSizes (m : IndexMetrics) (ns : String) (functions deployments : Nat) : IndexMetrics :=
  { m with
    functions := m.functions.set ns functions
    deployments := m.deployments.set ns deployments }

/-- Counts enqueued keys. -/
def enqueued (m : IndexMetrics) (cause : Cause) (keys : Nat) : IndexMetrics :=
  { m with enqueues := m.enqueues.incBy cause.label keys }

/-- Counts a notification that enqueued nothing. -/
def ignore (m : IndexMetrics) (reason : Ignored) : IndexMetrics :=
  { m with ignored := m.ignored.inc reason.label }

def samples (m : IndexMetrics) (scope : String) : List (String × Nat) :=
  m.functions.samples (scope ++ "_functions") "namespace" ++
    m.deployments.samples (scope ++ "_deployments") "namespace" ++
    m.enqueues.samples (scope ++ "_enqueues_total") "cause" ++
    m.ignored.samples (scope ++ "_ignored_total") "reason"

end IndexMetrics

end FaasOperator
