/-
# `FaasOperator.CommandLine.Options` — the options of the operator

What each option means, what it is where nothing is said, and which flag or environment variable
sets it.  The table is the type `Setting`; a value is read, checked and stored by `Setting.assign`,
the same for a flag and for a variable.
-/
import FaasOperator.Backoff
import FaasOperator.CommandLine.LogFilter
import FaasOperator.CommandLine.SocketAddress
import FaasOperator.CommandLine.Timeout
import FaasOperator.CommandLine.Word
import FaasOperator.PullPolicy

namespace FaasOperator

/-- A number of workers; there is at least one. -/
structure WorkerCount where
  count : UInt64
  count_ne_zero : count ≠ 0
deriving DecidableEq

structure Options where
  logFilter : LogFilter
  logFormat : LogFormat
  /-- The file that says how to reach the cluster. -/
  kubeconfig : Option String
  /-- The context of that file to use, in place of its own choice. -/
  context : Option String
  /-- The cluster of that file to use, in place of the context's. -/
  cluster : Option String
  /-- The user of that file to be, in place of the context's. -/
  user : Option String
  /-- The user to act for. -/
  impersonatedUser : Option String
  /-- The group to act for. -/
  impersonatedGroup : Option String
  /-- How long to wait for the API server's responses. -/
  responseTimeout : Option Timeout
  /-- Where to serve the health checks and the metrics. -/
  adminAddress : SocketAddress
  /-- The namespace of the functions. -/
  functionNamespace : String
  imagePullPolicy : PullPolicy
  /-- How often every function is reconciled; zero means never. -/
  resyncIntervalSecs : UInt64
  workers : WorkerCount
  /-- How long to wait for the first lists of objects. -/
  cacheSyncTimeoutSecs : UInt64
  backoffBaseMillis : UInt64
  backoffMaxSecs : UInt64
  /-- Report each Deployment's available replicas in the function's status. -/
  updateStatus : Bool
deriving DecidableEq

namespace Options

/-- The options where nothing is said. -/
def default : Options where
  logFilter := .default
  logFormat := .plain
  kubeconfig := none
  context := none
  cluster := none
  user := none
  impersonatedUser := none
  impersonatedGroup := none
  responseTimeout := none
  adminAddress := .default
  functionNamespace := "openfaas-fn"
  imagePullPolicy := .default
  resyncIntervalSecs := 30
  workers := ⟨2, by decide⟩
  cacheSyncTimeoutSecs := 60
  backoffBaseMillis := 5
  backoffMaxSecs := 1000
  updateStatus := false

/-- The backoff that the options describe. -/
def backoff (o : Options) : Backoff :=
  ⟨.ofMillis o.backoffBaseMillis, .ofSecs o.backoffMaxSecs⟩

end Options

/-- An option that takes a value. -/
inductive Setting where
  | logLevel
  | logFormat
  | kubeconfig
  | context
  | cluster
  | user
  | impersonatedUser
  | impersonatedGroup
  | responseTimeout
  | adminAddress
  | functionNamespace
  | imagePullPolicy
  | resyncInterval
  | workers
  | cacheSyncTimeout
  | backoffBase
  | backoffMax
deriving DecidableEq, Repr

namespace Setting

def all : List Setting :=
  [.logLevel, .logFormat, .kubeconfig, .context, .cluster, .user, .impersonatedUser,
    .impersonatedGroup, .responseTimeout, .adminAddress, .functionNamespace, .imagePullPolicy,
    .resyncInterval, .workers, .cacheSyncTimeout, .backoffBase, .backoffMax]

/-- The name of the flag, behind its two dashes. -/
def flag : Setting → String
  | .logLevel => "log-level"
  | .logFormat => "log-format"
  | .kubeconfig => "kubeconfig"
  | .context => "context"
  | .cluster => "cluster"
  | .user => "user"
  | .impersonatedUser => "as"
  | .impersonatedGroup => "as-group"
  | .responseTimeout => "kube-api-response-headers-timeout"
  | .adminAddress => "admin-addr"
  | .functionNamespace => "function-namespace"
  | .imagePullPolicy => "image-pull-policy"
  | .resyncInterval => "resync-interval-secs"
  | .workers => "workers"
  | .cacheSyncTimeout => "cache-sync-timeout-secs"
  | .backoffBase => "backoff-base-ms"
  | .backoffMax => "backoff-max-secs"

/-- The setting of a flag. -/
def ofFlag? (name : String) : Option Setting := all.find? fun s => s.flag == name

/-- The environment variable that sets the option where the flag is not given. -/
def environmentName? : Setting → Option String
  | .logLevel => some "FUNCTION_CONTROLLER_LOG"
  | .functionNamespace => some "function_namespace"
  | .imagePullPolicy => some "image_pull_policy"
  | _ => none

/-- A value that may be refused. -/
def orInvalid {α : Type} : Option α → Except CommandLineError α
  | some a => .ok a
  | none => .error .invalidValue

def workerCount? (s : String) : Option WorkerCount :=
  (Text.unsigned? s).bind fun n => if h : n ≠ 0 then some ⟨n, h⟩ else none

/-- A path, which cannot be empty: an empty one counts as missing. -/
def path (s : String) : Except CommandLineError String :=
  if s.isEmpty then .error .missingValue else .ok s

/-- Sets the option to the value that a text writes. -/
def assign (s : Setting) (text : String) (o : Options) : Except CommandLineError Options :=
  match s with
  | .logLevel => (orInvalid (LogFilter.parse? text)).map fun v => { o with logFilter := v }
  | .logFormat => (orInvalid (LogFormat.parse? text)).map fun v => { o with logFormat := v }
  | .kubeconfig => (path text).map fun v => { o with kubeconfig := some v }
  | .context => .ok { o with context := some text }
  | .cluster => .ok { o with cluster := some text }
  | .user => .ok { o with user := some text }
  | .impersonatedUser => .ok { o with impersonatedUser := some text }
  | .impersonatedGroup => .ok { o with impersonatedGroup := some text }
  | .responseTimeout =>
      (orInvalid (Timeout.parse? text)).map fun v => { o with responseTimeout := some v }
  | .adminAddress =>
      (orInvalid (SocketAddress.parse? text)).map fun v => { o with adminAddress := v }
  | .functionNamespace => .ok { o with functionNamespace := text }
  | .imagePullPolicy =>
      (orInvalid (PullPolicy.parse? text)).map fun v => { o with imagePullPolicy := v }
  | .resyncInterval =>
      (orInvalid (Text.unsigned? text)).map fun v => { o with resyncIntervalSecs := v }
  | .workers => (orInvalid (workerCount? text)).map fun v => { o with workers := v }
  | .cacheSyncTimeout =>
      (orInvalid (Text.unsigned? text)).map fun v => { o with cacheSyncTimeoutSecs := v }
  | .backoffBase => (orInvalid (Text.unsigned? text)).map fun v => { o with backoffBaseMillis := v }
  | .backoffMax => (orInvalid (Text.unsigned? text)).map fun v => { o with backoffMaxSecs := v }

end Setting

end FaasOperator
