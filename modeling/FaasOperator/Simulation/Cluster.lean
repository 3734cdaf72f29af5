/-
# `FaasOperator.Simulation.Cluster` — a cluster held in memory

It knows Secrets, gives every Deployment that is written the next resource version, notes all calls,
and fails those that it was told to fail.
-/
import FaasOperator.Cluster.Plan
import FaasOperator.Text

namespace FaasOperator.Simulation

/-- The kinds of calls that can fail. -/
inductive CallKind where
  | createService
  | createDeployment
  | updateDeployment
  | getSecret
  | patchStatus
deriving DecidableEq

/-- A failure that was ordered, and how many more times it is to happen; without a number, for ever.
-/
structure Fault where
  error : ClusterError
  times : Option Nat
deriving DecidableEq

structure Cluster where
  secrets : List (ResourceKey × Secret)
  faults : List (CallKind × Fault)
  /-- The available replicas of Deployments written from now on; without a number they have no
  status. -/
  available : Option Int32
  /-- Deployments written and not yet collected, in order. -/
  written : List Deployment
  /-- All calls, the last one first. -/
  log : List Call
deriving DecidableEq

namespace Cluster

def empty : Cluster := ⟨[], [], none, [], []⟩

def putSecret (s : Secret) (c : Cluster) : Cluster :=
  let key : ResourceKey := ⟨s.metadata.anyNamespace, s.metadata.name.getD ""⟩
  { c with secrets := (key, s) :: c.secrets.filter fun e => e.1 != key }

def removeSecret (key : ResourceKey) (c : Cluster) : Cluster :=
  { c with secrets := c.secrets.filter fun e => e.1 != key }

/-- Orders a failure in place of the one ordered before. -/
def setFault (kind : CallKind) (fault : Fault) (c : Cluster) : Cluster :=
  { c with faults := (kind, fault) :: c.faults.filter fun e => e.1 != kind }

def clearFaults (c : Cluster) : Cluster := { c with faults := [] }

/-- The ordered failure of a call, if one is due, counted off. -/
def takeFault (kind : CallKind) (c : Cluster) : Option ClusterError × Cluster :=
  match c.faults.lookup kind with
  | none => (none, c)
  | some ⟨_, some 0⟩ => (none, c)
  | some ⟨e, some (n + 1)⟩ => (some e, c.setFault kind ⟨e, some n⟩)
  | some ⟨e, none⟩ => (some e, c)

def note (call : Call) (c : Cluster) : Cluster := { c with log := call :: c.log }

/-- The number behind the version that was sent; one that cannot be read counts as zero. -/
def nextVersion (sent : Option String) : String :=
  toString (((sent.bind Text.unsigned?).map UInt64.toNat).getD 0 + 1)

/-- Stores a Deployment at a version and returns it. -/
def store (d : Deployment) (version : String) (c : Cluster) : Deployment × Cluster :=
  let stored : Deployment := {
    metadata := { d.metadata with resourceVersion := some version }
    spec := d.spec
    status := c.available.map fun n => ⟨some n, ∅⟩ }
  (stored, { c with written := c.written ++ [stored] })

/-- There is no Secret of that name. -/
def secretNotFound : ClusterError := .api ⟨"Failure", "NotFound (404)", "NotFound", 404⟩

/-- Fails with the ordered failure, or else goes on. -/
def unlessFault {α : Type} (kind : CallKind) (c : Cluster)
    (proceed : Cluster → Except ClusterError α × Cluster) : Except ClusterError α × Cluster :=
  match c.takeFault kind with
  | (some e, c) => (.error e, c)
  | (none, c) => proceed c

def answer (call : Call) (c : Cluster) : call.Answer × Cluster :=
  match call with
  | .createService s =>
      (c.note (.createService s)).unlessFault .createService fun c => (.ok (), c)
  | .createDeployment d =>
      (c.note (.createDeployment d)).unlessFault .createDeployment fun c =>
        let (stored, c) := c.store d "1"
        (.ok stored, c)
  | .updateDeployment d =>
      (c.note (.updateDeployment d)).unlessFault .updateDeployment fun c =>
        let (stored, c) := c.store d (nextVersion d.metadata.resourceVersion)
        (.ok stored, c)
  | .getSecret ns name =>
      (c.note (.getSecret ns name)).unlessFault .getSecret fun c =>
        match c.secrets.lookup ⟨ns, name⟩ with
        | some s => (.ok s, c)
        | none => (.error secretNotFound, c)
  | .patchStatus ns name status =>
      (c.note (.patchStatus ns name status)).unlessFault .patchStatus fun c => (.ok (), c)
  | .publish n => ((), c.note (.publish n))

def carryOut {α : Type} (p : Plan α) (c : Cluster) : α × Cluster := p.run answer c

/-- Hands over the calls noted so far, in order. -/
def takeLog (c : Cluster) : List Call × Cluster := (c.log.reverse, { c with log := [] })

/-- Hands over the Deployments written so far, in order. -/
def takeWritten (c : Cluster) : List Deployment × Cluster := (c.written, { c with written := [] })

end Cluster

end FaasOperator.Simulation
