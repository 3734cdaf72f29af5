/-
# `FaasOperator.Index` — the functions and Deployments observed last

The index holds what the watches reported last, by namespace.  Each notification updates it and says
which keys it may now be necessary to reconcile: the key of a function that was applied, and the key
of the function that controls a Deployment that was applied or deleted.  A Deployment that is listed
again at the version that is held already enqueues nothing.

Enqueueing is the caller's: `notify` and `resync` give the new index with the keys in order.
-/
import FaasOperator.Index.Metrics
import FaasOperator.Reconcile

namespace FaasOperator

/-- What is held of one namespace, by name. -/
structure NamespaceIndex where
  functions : StringMap FunctionObject
  deployments : StringMap Deployment
deriving DecidableEq

/-- A namespace of which nothing is held. -/
def NamespaceIndex.empty : NamespaceIndex := ⟨∅, ∅⟩

/-- The objects observed last, and of which kinds the first list has been seen. -/
structure Index where
  namespaces : StringMap NamespaceIndex
  functionsSynced : Bool
  deploymentsSynced : Bool
  metrics : IndexMetrics
deriving DecidableEq

/-- A watch's news.  A reset carries all objects of a kind, and the keys of those that are gone. -/
inductive Notification where
  | applyFunction (f : FunctionObject)
  | deleteFunction (key : ResourceKey)
  | resetFunctions (fs : List FunctionObject) (removed : List ResourceKey)
  | applyDeployment (d : Deployment)
  | deleteDeployment (key : ResourceKey)
  | resetDeployments (ds : List Deployment) (removed : List ResourceKey)

namespace Index

def empty : Index := ⟨∅, false, false, .empty⟩

/-! ## Reading -/

/-- What is held of a namespace. -/
def space (i : Index) (ns : String) : NamespaceIndex := (i.namespaces.get? ns).getD .empty

/-- The function under a key. -/
def function? (i : Index) (key : ResourceKey) : Option FunctionObject :=
  (i.space key.ns).functions.get? key.name

def deployment? (i : Index) (key : ResourceKey) : Option Deployment :=
  (i.space key.ns).deployments.get? key.name

def listFunctions (i : Index) (ns : String) : List FunctionObject := (i.space ns).functions.values

def listDeployments (i : Index) (ns : String) : List Deployment := (i.space ns).deployments.values

/-- The first lists of both kinds have been seen. -/
def synced (i : Index) : Bool := i.functionsSynced && i.deploymentsSynced

/-- The index as a reconcile sees it. -/
def observed (i : Index) : Observed := ⟨i.function?, i.deployment?⟩

/-- The keys of all functions. -/
def functionKeys (i : Index) : List ResourceKey :=
  i.namespaces.entries.flatMap fun (ns, space) => space.functions.keys.map fun name => ⟨ns, name⟩

/-! ## Changing -/

/-- Changes what is held of a namespace, and says how much it is.  A namespace of which nothing is
held is dropped. -/
def updateSpace (i : Index) (ns : String) (f : NamespaceIndex → NamespaceIndex) : Index :=
  let space := f (i.space ns)
  { i with
    namespaces :=
      if space.functions.isEmpty && space.deployments.isEmpty then i.namespaces.erase ns
      else i.namespaces.insert ns space
    metrics := i.metrics.setSizes ns space.functions.size space.deployments.size }

/-- An index and the keys that it enqueues, in order. -/
abbrev Routed := Index × List ResourceKey

/-- Nothing is enqueued, for this reason. -/
def ignore (i : Index) (reason : Ignored) : Routed :=
  ({ i with metrics := i.metrics.ignore reason }, [])

/-- Keys are enqueued, for this cause. -/
def enqueue (i : Index) (cause : Cause) (keys : List ResourceKey) : Routed :=
  ({ i with metrics := i.metrics.enqueued cause keys.length }, keys)

/-- Enqueues the function that controls a Deployment, if it is cached.  The function is the one
named by the controller reference, in the Deployment's namespace. -/
def enqueueOwner (i : Index) (d : Deployment) : Routed :=
  match d.metadata.controller? with
  | none => i.ignore .unmanaged
  | some owner =>
      if owner.kind != FunctionObject.kind then i.ignore .unmanaged
      else
        let key : ResourceKey := ⟨d.metadata.anyNamespace, owner.name⟩
        match i.function? key with
        | none => i.ignore .orphaned
        | some _ => i.enqueue .ownedDeployment [key]

/-- A function was created or changed. -/
def applyFunction (f : FunctionObject) (i : Index) : Routed :=
  match f.metadata.key? with
  | none => i.ignore .malformed
  | some key =>
      (i.updateSpace key.ns fun s => { s with functions := s.functions.insert key.name f }).enqueue
        .function [key]

/-- A function was deleted.  What it owns is collected by the API server. -/
def deleteFunction (key : ResourceKey) (i : Index) : Routed :=
  (i.updateSpace key.ns fun s => { s with functions := s.functions.erase key.name }, [])

/-- Two states of a Deployment at one resource version are the same state. -/
def sameVersion (prior current : Deployment) : Bool :=
  prior.metadata.resourceVersion.isSome &&
    prior.metadata.resourceVersion == current.metadata.resourceVersion

/-- A Deployment was created or changed, or listed again as it was. -/
def applyDeployment (d : Deployment) (i : Index) : Routed :=
  match d.metadata.key? with
  | none => i.ignore .malformed
  | some key =>
      let prior := i.deployment? key
      let i := i.updateSpace key.ns fun s =>
        { s with deployments := s.deployments.insert key.name d }
      if prior.any fun p => sameVersion p d then i.ignore .unchanged
      else i.enqueueOwner d

/-- A Deployment was deleted.  Its owner is known from the state that was observed last. -/
def deleteDeployment (key : ResourceKey) (i : Index) : Routed :=
  match i.deployment? key with
  | none => i.ignore .unknownDelete
  | some d =>
      (i.updateSpace key.ns fun s =>
        { s with deployments := s.deployments.erase key.name }).enqueueOwner d

/-- Takes in a list of changes one after the other. -/
def each (step : α → Index → Routed) : List α → Routed → Routed
  | [], r => r
  | x :: xs, (i, keys) =>
      let (i, more) := step x i
      each step xs (i, keys ++ more)

/-- All functions were listed, and some are gone. -/
def resetFunctions (fs : List FunctionObject) (removed : List ResourceKey) (i : Index) : Routed :=
  let (i, keys) := each deleteFunction removed (each applyFunction fs (i, []))
  ({ i with functionsSynced := true }, keys)

/-- All Deployments were listed, and some are gone. -/
def resetDeployments (ds : List Deployment) (removed : List ResourceKey) (i : Index) : Routed :=
  let (i, keys) := each deleteDeployment removed (each applyDeployment ds (i, []))
  ({ i with deploymentsSynced := true }, keys)

/-- Takes in a watch's news. -/
def notify : Notification → Index → Routed
  | .applyFunction f => applyFunction f
  | .deleteFunction key => deleteFunction key
  | .resetFunctions fs removed => resetFunctions fs removed
  | .applyDeployment d => applyDeployment d
  | .deleteDeployment key => deleteDeployment key
  | .resetDeployments ds removed => resetDeployments ds removed

/-- Enqueues every function, for the sake of changes that no notification reported. -/
def resync (i : Index) : Routed := i.enqueue .resync i.functionKeys

end Index

end FaasOperator
