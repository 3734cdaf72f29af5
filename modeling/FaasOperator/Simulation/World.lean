/-
# `FaasOperator.Simulation.World` — the whole operator in one world

Index, queue, workers and an in-memory cluster under one clock.  Nothing happens by itself: each
step has its effect, and then the workers process what waits until nothing is left to do.
-/
import FaasOperator.Agenda
import FaasOperator.Controller
import FaasOperator.Index
import FaasOperator.Simulation.Cluster

namespace FaasOperator.Simulation

/-- What the clock triggers. -/
inductive Alarm where
  /-- A delayed add. -/
  | add (key : ResourceKey)
  /-- A resync, and the time in nanoseconds from one to the next. -/
  | resync (period : Nat)
deriving DecidableEq

/-- The operator and its surroundings. -/
structure World where
  config : ReconcileConfig
  backoff : Backoff
  index : Index
  queue : WorkQueue ResourceKey
  agenda : Agenda Alarm
  metrics : ControllerMetrics
  cluster : Cluster
  /-- Workers that wait for keys. -/
  workers : Nat
  /-- Controllers that were started and not stopped. -/
  controllers : Nat
deriving DecidableEq

namespace World

def empty (config : ReconcileConfig) (backoff : Backoff) : World :=
  ⟨config, backoff, .empty, .empty, .empty, .empty, .empty, 0, 0⟩

/-! ## Workers -/

/-- Takes over a queue and the delayed add that came with it. -/
def withDelayed (w : World) (r : WorkQueue ResourceKey × Option (Delayed ResourceKey)) : World :=
  { w with
    queue := r.1
    agenda := match r.2 with
      | none => w.agenda
      | some d => w.agenda.scheduleIn d.delay.nanos (.add d.key) }

def carryOut {α : Type} (p : Plan α) (w : World) : α × World :=
  let (a, cluster) := w.cluster.carryOut p
  (a, { w with cluster := cluster })

def reconcile (key : ResourceKey) (w : World) : Except ReconcileError Outcome × World :=
  w.carryOut (sync w.config w.index.observed key)

/-- Processes the first key in line.  Nothing is left if no key waits. -/
def processNext? (w : World) : Option World :=
  match w.queue.get with
  | (.key key, queue) =>
      let w := { w with queue := queue, metrics := w.metrics.setQueueDepth queue.length }
      let (result, w) := w.reconcile key
      let w := { w with metrics := w.metrics.reconciled result }
      some (w.withDelayed (w.queue.release w.backoff key result))
  | (.pending, _) | (.closed, _) => none

/-- Processes keys one after the other, at most so many. -/
def process : Nat → World → World
  | 0, w => w
  | n + 1, w =>
      match w.processNext? with
      | none => w
      | some w => process n w

/-- How many failures are still ordered. -/
def orderedFaults (w : World) : Nat := w.cluster.faults.foldl (fun n e => n + e.2.times.getD 0) 0

/-- How many passes the waiting keys can take.  A key comes back at once only after a failure
without a delay, which the backoff allows 32 times in a row at most unless no delay is ever allowed.
-/
def passes (w : World) : Nat := 33 * w.queue.length + w.orderedFaults + 1

/-- Lets the workers process all that waits.  When the queue is closed they go home. -/
def settle (w : World) : World :=
  if w.workers = 0 then w
  else
    let w := process w.passes w
    if w.queue.closed then { w with workers := 0 } else w

/-! ## Steps -/

/-- Enqueues what the index says. -/
def route (r : Index.Routed) (w : World) : World :=
  { w with index := r.1, queue := w.queue.addAll r.2 }

def notify (n : Notification) (w : World) : World := w.route (w.index.notify n)

/-- Takes in all Deployments that the cluster has written, and says how many. -/
def deliver (w : World) : Nat × World :=
  let (ds, cluster) := w.cluster.takeWritten
  (ds.length, ds.foldl (fun w d => w.notify (.applyDeployment d)) { w with cluster := cluster })

def resync (w : World) : World := w.route w.index.resync

/-- Enqueues every function again and again. -/
def startResync (period : Nat) (w : World) : World :=
  { w with agenda := w.agenda.scheduleAt (w.agenda.now + period) (.resync period) }

/-- A resync that runs later than this is counted from when it ran. -/
def toleratedDelay : Nat := 5 * nanosPerMilli

/-- When the resync after one that was due then and runs now is due. -/
def nextResync (due now period : Nat) : Nat :=
  if due + toleratedDelay < now then now + period else due + period

/-- Does what was due at a time. -/
def trigger (due : Nat) (alarm : Alarm) (w : World) : World :=
  match alarm with
  | .add key => { w with queue := w.queue.add key }
  | .resync period =>
      let w := w.resync
      { w with agenda := w.agenda.scheduleAt (nextResync due w.agenda.now period) (.resync period) }

/-- Does what is due, entry after entry, at most so many. -/
def fire : Nat → World → World
  | 0, w => w
  | n + 1, w =>
      match w.agenda.takeDue? with
      | none => w
      | some (e, agenda) => fire n (trigger e.due e.action { w with agenda := agenda })

/-- Moves the clock and does what is due by then.  A resync that is late can be due again at once,
but not more often than it may be late in milliseconds. -/
def jump (nanos : Nat) (w : World) : World :=
  let w := { w with agenda := w.agenda.advance nanos }
  (fire (6 * w.agenda.entries.length) w).settle

/-- Moves the clock so many times by the same amount. -/
def advance (nanos : Nat) : Nat → World → World
  | 0, w => w
  | n + 1, w => advance nanos n (w.jump nanos)

/-- Takes the waiting keys and is done with each at once. -/
def drain (w : World) : List ResourceKey × World :=
  (w.queue.waiting,
    { w with queue := w.queue.waiting.foldl (fun q k => (q.get.2).done k) w.queue })

/-- Starts a controller with so many workers. -/
def start (workers : Nat) (w : World) : World :=
  { w with workers := w.workers + workers, controllers := w.controllers + 1 }

/-- Stops the controller that was started last: the queue is closed, and the workers process what is
left of it.  Without a controller nothing happens. -/
def stop (w : World) : Bool × World :=
  if w.controllers = 0 then (false, w)
  else (true, { w with queue := w.queue.shutdown, controllers := w.controllers - 1 })

def samples (w : World) : List (String × Nat) :=
  w.index.metrics.samples "index" ++ w.metrics.samples "controller"

end World

end FaasOperator.Simulation
