/-
# `FaasOperator.Startup` — what the operator does before it connects to a cluster

It reads its command line, and finds out where the cluster is.  Kubeconfig files tell; where none
does, and none was asked for, it is the cluster around the operator.  The first thing that goes
wrong ends the program, with an exit code of its own for the command line.
-/
import FaasOperator.CommandLine
import FaasOperator.InCluster
import FaasOperator.Kubeconfig

namespace FaasOperator

inductive StartupError where
  | commandLine (e : CommandLineError)
  | kubeconfig (e : KubeconfigError)
  | inCluster (e : InClusterError)

namespace StartupError

def message : StartupError → String
  | .commandLine e => "error: " ++ e.message
  | .kubeconfig e => "Error: " ++ e.message
  | .inCluster e => "Error: " ++ e.message

/-- The exit code: a wrong command line has one of its own. -/
def exitCode : StartupError → UInt8
  | .commandLine _ => 2
  | .kubeconfig _ => 1
  | .inCluster _ => 1

end StartupError

/-- What is known when the operator connects to its cluster. -/
structure Startup where
  options : Options
  /-- The address of the cluster's API server. -/
  server : String
deriving DecidableEq

namespace Startup

def filesVariable : String := "KUBECONFIG"

/-- The variables that name a proxy, in the order in which they are looked at. -/
def proxyVariables : List String := ["HTTP_PROXY", "http_proxy", "HTTPS_PROXY", "https_proxy"]

/-- All variables that the start looks at besides those of the options. -/
def furtherVariables : List String :=
  filesVariable :: InCluster.hostVariable :: InCluster.portVariable :: proxyVariables

def homeFile (home : String) : String := FilePath.join (FilePath.join home ".kube") "config"

/-- The files to read: the one that is asked for, or else those of the environment, or else the one
in the home directory. -/
def kubeconfigFiles (o : Options) (env : Environment) (home : String) : List String :=
  match o.kubeconfig with
  | some path => [path]
  | none =>
      let listed := (Text.pieces ':' ((env filesVariable).getD "").toList).filter (!·.isEmpty)
      if listed.isEmpty then [homeFile home] else listed.map String.ofList

/-- The options ask for something that only a kubeconfig file can tell. -/
def asksForKubeconfig (o : Options) : Bool :=
  o.kubeconfig.isSome || o.context.isSome || o.cluster.isSome || o.user.isSome ||
    o.impersonatedUser.isSome || o.impersonatedGroup.isSome

/-- The address that kubeconfig files tell. -/
def connectByFiles [Monad m] (readFile : ReadFile m) (o : Options) (env : Environment)
    (home : String) : m (Except KubeconfigError String) := do
  match ← Kubeconfig.readAll readFile .empty (kubeconfigFiles o env home) with
  | .error e => return .error e
  | .ok config =>
      match (config.chooseContext o.context).bind (config.chooseCluster · o.cluster) with
      | .error e => return .error e
      | .ok cluster => cluster.connect readFile (proxyVariables.filterMap env)

def connect [Monad m] (readFile : ReadFile m) (o : Options) (env : Environment) (home : String) :
    m (Except StartupError Startup) := do
  match ← connectByFiles readFile o env home with
  | .ok server => return .ok ⟨o, server⟩
  | .error e =>
      if asksForKubeconfig o then return .error (.kubeconfig e)
      else
        match ← InCluster.connect readFile env with
        | .error e => return .error (.inCluster e)
        | .ok server => return .ok ⟨o, server⟩

def run [Monad m] (readFile : ReadFile m) (env : Environment) (home : String)
    (words : List String) : m (Except StartupError Startup) :=
  match CommandLine.parse env words with
  | .error e => return .error (.commandLine e)
  | .ok o => connect readFile o env home

end Startup

end FaasOperator
