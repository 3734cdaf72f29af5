/-
# `FaasOperator.Cluster.Plan` — what a reconcile asks of the cluster

A plan is a tree: either it is done, or it makes one call and goes on in a way that depends on the
answer.  It can be carried out by anything that answers calls, be it a server or a list of answers
that was fixed before, and `run_andThen` says that two plans in a row are carried out one after the
other.
-/
import FaasOperator.Cluster.Error
import FaasOperator.Function.Object
import FaasOperator.Kubernetes.Deployment
import FaasOperator.Kubernetes.Secret
import FaasOperator.Kubernetes.Service

namespace FaasOperator

/-- Whether an event reports something in order or something amiss. -/
inductive NoticeKind where
  | normal
  | warning
deriving DecidableEq

def NoticeKind.render : NoticeKind → String
  | .normal => "Normal"
  | .warning => "Warning"

/-- An event to be published about a function. -/
structure Notice where
  function : FunctionObject
  kind : NoticeKind
  reason : String
  message : String
deriving DecidableEq

/-- A call to the cluster. -/
inductive Call where
  | createService (service : Service)
  | createDeployment (deployment : Deployment)
  /-- Replaces a Deployment, provided that its resource version is still the stored one. -/
  | updateDeployment (deployment : Deployment)
  | getSecret (ns name : String)
  | patchStatus (ns name : String) (status : FunctionStatus)
  /-- Publishing an event is never waited for: it has no answer. -/
  | publish (notice : Notice)
deriving DecidableEq

/-- What a call is answered with. -/
def Call.Answer : Call → Type
  | .createService _ => Except ClusterError Unit
  | .createDeployment _ => Except ClusterError Deployment
  | .updateDeployment _ => Except ClusterError Deployment
  | .getSecret _ _ => Except ClusterError Secret
  | .patchStatus _ _ _ => Except ClusterError Unit
  | .publish _ => Unit

/-- A tree of calls that comes to a result. -/
inductive Plan (α : Type) where
  | done (a : α)
  | call (c : Call) (next : c.Answer → Plan α)

namespace Plan

variable {α β σ : Type}

/-- Goes on with another plan that depends on the result. -/
def andThen (p : Plan α) (f : α → Plan β) : Plan β :=
  match p with
  | .done a => f a
  | .call c next => .call c fun answer => (next answer).andThen f

/-- Carries out a plan with something that answers calls and has a state. -/
def run (answer : (c : Call) → σ → c.Answer × σ) : Plan α → σ → α × σ
  | .done a, s => (a, s)
  | .call c next, s => run answer (next (answer c s).1) (answer c s).2

theorem run_andThen (answer : (c : Call) → σ → c.Answer × σ) (p : Plan α) (f : α → Plan β) (s : σ) :
    run answer (p.andThen f) s = run answer (f (run answer p s).1) (run answer p s).2 := by
  induction p generalizing s with
  | done a => rfl
  | call c next ih => exact ih _ _

end Plan

end FaasOperator
