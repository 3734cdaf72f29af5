/-
# `FaasOperator.Reconcile` — one reconcile

From what is cached about a function to the calls that bring its workload in line.  A function
without a Deployment gets one, with a Service in front; a Deployment made from another declaration
is replaced; one that somebody else controls is left alone.  Nothing is ever deleted.

A reconcile is a plan (`sync`), so that what it asks for and in which order is there to be reasoned
about apart from whoever answers.
-/
import FaasOperator.Cluster.Plan
import FaasOperator.Workload.Change
import FaasOperator.Workload.Deployment

namespace FaasOperator

structure ReconcileConfig where
  imagePullPolicy : PullPolicy
  /-- Report the Deployment's available replicas in the function's status. -/
  updateStatus : Bool
deriving DecidableEq

/-- What a reconcile looks at: the functions and Deployments observed last. -/
structure Observed where
  function? : ResourceKey → Option FunctionObject
  deployment? : ResourceKey → Option Deployment

/-- How a reconcile ended. -/
inductive Outcome where
  | created
  | updated
  | unchanged
  /-- The function is gone, or cannot be reconciled as it is declared. -/
  | skipped
  /-- Somebody else controls the Deployment of that name. -/
  | conflict
deriving DecidableEq

def Outcome.render : Outcome → String
  | .created => "created"
  | .updated => "updated"
  | .unchanged => "unchanged"
  | .skipped => "skipped"
  | .conflict => "conflict"

/-- Why a reconcile has to be tried again. -/
inductive ReconcileError where
  | secret (name : String) (source : ClusterError)
  | cluster (source : ClusterError)
deriving DecidableEq

def ReconcileError.message : ReconcileError → String
  | .secret name source => "failed to read secret " ++ name ++ ": " ++ source.message
  | .cluster source => source.message

/-- A plan that may fail. -/
abbrev Attempt (α : Type) := Plan (Except ReconcileError α)

/-- Goes on unless the attempt failed. -/
def Attempt.andThen {α β : Type} (p : Attempt α) (f : α → Attempt β) : Attempt β :=
  Plan.andThen p fun
    | .error e => .done (.error e)
    | .ok a => f a

/-! ## Events -/

/-- The function's workload is in line. -/
def syncedNotice (f : FunctionObject) : Notice :=
  ⟨f, .normal, "Synced", "Function synced successfully"⟩

/-- Somebody else controls the Deployment. -/
def conflictNotice (f : FunctionObject) : Notice :=
  ⟨f, .warning, "ErrResourceExists",
    "Resource " ++ Text.quoted f.spec.name ++ " already exists and is not managed by OpenFaaS"⟩

/-! ## Secrets -/

/-- Reads the named Secrets, each once, and stops at the first that cannot be read. -/
def resolveSecrets (ns : String) : List String → Secrets → Attempt Secrets
  | [], secrets => .done (.ok secrets)
  | name :: names, secrets =>
      if secrets.contains name then resolveSecrets ns names secrets
      else
        .call (.getSecret ns name) fun
          | .error e => .done (.error (.secret name e))
          | .ok s => resolveSecrets ns names (secrets.insert name s)

/-- Reads the Secrets that a function declares. -/
def FunctionObject.resolveSecrets (f : FunctionObject) : Attempt Secrets :=
  FaasOperator.resolveSecrets f.metadata.anyNamespace (f.spec.secrets.getD []) ∅

/-! ## The workload -/

/-- The Deployment's controller is the object that `owner` refers to. -/
def Deployment.isControlledBy (d : Deployment) (owner : OwnerReference) : Bool :=
  match d.metadata.controller? with
  | some r => r.kind == owner.kind && r.uid == owner.uid
  | none => false

/-- Reads the Secrets and creates the Deployment.  One that is there already is left alone, and
nothing is known of it. -/
def createDeployment (cfg : ReconcileConfig) (f : FunctionObject) (owner : OwnerReference) :
    Attempt (Option Deployment) :=
  Attempt.andThen f.resolveSecrets fun secrets =>
    .call (.createDeployment (f.deployment owner secrets cfg.imagePullPolicy)) fun
      | .ok d => .done (.ok (some d))
      | .error e => .done (if e.isAlreadyExists then .ok none else .error (.cluster e))

/-- Creates the Service, unless it is there already, and then the Deployment. -/
def createWorkload (cfg : ReconcileConfig) (f : FunctionObject) (owner : OwnerReference) :
    Attempt (Option Deployment) :=
  .call (.createService (f.service owner)) fun
    | .ok () => createDeployment cfg f owner
    | .error e =>
        if e.isAlreadyExists then createDeployment cfg f owner else .done (.error (.cluster e))

/-- The Deployment that is to replace the current one: rendered afresh, at the current one's
version. -/
def replacement (cfg : ReconcileConfig) (f : FunctionObject) (owner : OwnerReference)
    (secrets : Secrets) (current : Deployment) : Deployment :=
  let d := f.deployment owner secrets cfg.imagePullPolicy
  { d with metadata := { d.metadata with resourceVersion := current.metadata.resourceVersion } }

/-- Reads the Secrets, which may have changed, and replaces the Deployment. -/
def updateWorkload (cfg : ReconcileConfig) (f : FunctionObject) (owner : OwnerReference)
    (current : Deployment) : Attempt Deployment :=
  Attempt.andThen f.resolveSecrets fun secrets =>
    .call (.updateDeployment (replacement cfg f owner secrets current)) fun
      | .ok d => .done (.ok d)
      | .error e => .done (.error (.cluster e))

/-- Reports the Deployment's available replicas, if the function's status says otherwise. -/
def reportStatus (f : FunctionObject) (d : Deployment) : Attempt Unit :=
  if f.status = some ⟨d.availableReplicas⟩ then .done (.ok ())
  else
    .call (.patchStatus f.metadata.anyNamespace f.metadata.anyName ⟨d.availableReplicas⟩) fun
      | .ok () => .done (.ok ())
      | .error e => .done (.error (.cluster e))

/-- Reports the status of the Deployment, if it is known and reports are wanted. -/
def reportIfWanted (cfg : ReconcileConfig) (f : FunctionObject) (d : Option Deployment) :
    Attempt Unit :=
  match d with
  | some d => if cfg.updateStatus then reportStatus f d else .done (.ok ())
  | none => .done (.ok ())

/-- Reports the status and then the success. -/
def concludeSync (cfg : ReconcileConfig) (f : FunctionObject) (outcome : Outcome)
    (d : Option Deployment) : Attempt Outcome :=
  Attempt.andThen (reportIfWanted cfg f d) fun () =>
    .call (.publish (syncedNotice f)) fun () => .done (.ok outcome)

/-- Brings the workload of a function with this owner reference in line. -/
def syncOwned (cfg : ReconcileConfig) (f : FunctionObject) (owner : OwnerReference)
    (current : Option Deployment) : Attempt Outcome :=
  match current with
  | none =>
      Attempt.andThen (createWorkload cfg f owner) fun created =>
        concludeSync cfg f .created created
  | some current =>
      if !current.isControlledBy owner then
        .call (.publish (conflictNotice f)) fun () => .done (.ok .conflict)
      else if needsUpdate f.spec current then
        Attempt.andThen (updateWorkload cfg f owner current) fun updated =>
          concludeSync cfg f .updated (some updated)
      else concludeSync cfg f .unchanged (some current)

/-- Reconciles the function under a key.  One that is gone, that names no Deployment or that cannot
own anything is skipped. -/
def sync (cfg : ReconcileConfig) (seen : Observed) (key : ResourceKey) : Attempt Outcome :=
  match seen.function? key with
  | none => .done (.ok .skipped)
  | some f =>
      if f.spec.name.isEmpty then .done (.ok .skipped)
      else
        match f.ownerReference? with
        | none => .done (.ok .skipped)
        | some owner => syncOwned cfg f owner (seen.deployment? ⟨key.ns, f.spec.name⟩)

end FaasOperator
