/-
# `FaasOperator.InCluster` — reaching a cluster from within it

The address of the cluster is in the environment, and what else is needed is in files that every
container is given.  The variables are looked at first, then the port, the address that they make
up, and the files, and the first thing that is missing or wrong is told.
-/
import FaasOperator.CommandLine.SocketAddress
import FaasOperator.Files
import FaasOperator.Http.Url

namespace FaasOperator

namespace InCluster

/-- Why a text is no port. -/
inductive PortError where
  | empty
  | oddDigit
  | tooLarge
deriving DecidableEq, Repr

def PortError.message : PortError → String
  | .empty => "cannot parse integer from empty string"
  | .oddDigit => "invalid digit found in string"
  | .tooLarge => "number too large to fit in target type"

/-- Reads the digits of a port from left to right. -/
def portDigits (n : Nat) : List Char → Except PortError Nat
  | [] => .ok n
  | c :: cs =>
      if !c.isDigit then .error .oddDigit
      else
        let n := n * 10 + (c.toNat - '0'.toNat)
        if UInt16.size ≤ n then .error .tooLarge else portDigits n cs

/-- Reads a port, which may have a plus sign. -/
def port (s : String) : Except PortError Nat :=
  match s.toList with
  | [] => .error .empty
  | ['+'] => .error .oddDigit
  | cs => portDigits 0 (Text.dropPlus cs)

end InCluster

/-- Why the cluster around the operator cannot be reached. -/
inductive InClusterError where
  /-- A variable is not set. -/
  | noVariable
  | badPort (e : InCluster.PortError)
  | badAddress (p : Http.UrlProblem)
  | noNamespace (e : FileError)
  | noCertificate (e : FileError)
deriving DecidableEq, Repr

def InClusterError.message : InClusterError → String
  | .noVariable =>
      "failed to read an incluster environment variable: environment variable not found"
  | .badPort e => "failed to parse cluster port: " ++ e.message
  | .badAddress p => "failed to parse cluster url: " ++ p.message
  | .noNamespace e => "failed to read the default namespace: " ++ e.message
  | .noCertificate e => "failed to read a certificate bundle: " ++ e.message

namespace InCluster

def hostVariable : String := "KUBERNETES_SERVICE_HOST"

def portVariable : String := "KUBERNETES_SERVICE_PORT"

def namespaceFile : String := "/var/run/secrets/kubernetes.io/serviceaccount/namespace"

/-- The file of the certificate that the server is trusted by. -/
def certificateFile : String := "/var/run/secrets/kubernetes.io/serviceaccount/ca.crt"

/-- The port that need not be told. -/
def usualPort : Nat := 443

/-- The address of a host and a port; an address of version 6 stands in brackets. -/
def addressOf (host : String) (port : Nat) : String :=
  let host := if SocketAddress.isIPv6 host.toList then "[" ++ host ++ "]" else host
  "https://" ++ host ++ if port = usualPort then "" else ":" ++ toString port

/-- The address of the server. -/
def address (env : Environment) : Except InClusterError String :=
  match env hostVariable, env portVariable with
  | some host, some portText =>
      match port portText with
      | .error e => .error (.badPort e)
      | .ok port =>
          match Http.Url.check (addressOf host port) with
          | .error p => .error (.badAddress p)
          | .ok () => .ok (addressOf host port)
  | _, _ => .error .noVariable

/-- The address of a server for which the files are there, too. -/
def connect [Monad m] (readFile : ReadFile m) (env : Environment) :
    m (Except InClusterError String) := do
  match address env with
  | .error e => return .error e
  | .ok address =>
      match ← readFile namespaceFile with
      | .error e => return .error (.noNamespace e)
      | .ok _ =>
          match ← readFile certificateFile with
          | .error e => return .error (.noCertificate e)
          | .ok _ => return .ok address

end InCluster

end FaasOperator
