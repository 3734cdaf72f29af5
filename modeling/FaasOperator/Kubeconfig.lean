/-
# `FaasOperator.Kubeconfig` — which clusters there are, and which one to use

Several kubeconfig files, and several documents of one file, are merged: what comes first counts.
The context is the one that is asked for or else the file's own choice, and the cluster the one that
is asked for or else the context's.  What is wrong with the cluster that was chosen is found in a
fixed order, its address first.
-/
import FaasOperator.Base64
import FaasOperator.Files
import FaasOperator.Http.Url
import FaasOperator.Kubeconfig.Shape
import FaasOperator.Yaml.Document

namespace FaasOperator

/-- A cluster and a user to be there, by name. -/
structure KubeContext where
  cluster : String
  user : Option String
deriving DecidableEq

/-- How to reach a cluster. -/
structure KubeCluster where
  server : Option String
  /-- The file of the certificate that the server is trusted by. -/
  certificateFile : Option String
  /-- That certificate itself, in Base64. -/
  certificateData : Option String
  proxy : Option String
deriving DecidableEq

/-- Something under a name, which may be missing all the same. -/
structure Named (α : Type) where
  name : String
  value : Option α
deriving DecidableEq

structure Kubeconfig where
  kind : Option String
  apiVersion : Option String
  currentContext : Option String
  contexts : List (Named KubeContext)
  clusters : List (Named KubeCluster)
deriving DecidableEq

/-- Why a kubeconfig does not say how to reach a cluster. -/
inductive KubeconfigError where
  | unreadable (path : String) (e : FileError)
  /-- The text is no YAML. -/
  | malformed (p : Yaml.Problem)
  /-- The text says other things than a kubeconfig does. -/
  | misshapen (m : Yaml.Mismatch)
  /-- Files of different kinds cannot be merged. -/
  | kindMismatch
  /-- Files of different versions cannot be merged. -/
  | versionMismatch
  /-- No context was chosen. -/
  | noContext
  /-- There is no such context. -/
  | unknownContext (name : String)
  /-- There is no such cluster. -/
  | unknownCluster (name : String)
  /-- The cluster has no address. -/
  | noServer
  | badServer (p : Http.UrlProblem)
  | badCertificate
  | badProxy (p : Http.UrlProblem)

def KubeconfigError.message : KubeconfigError → String
  | .unreadable path e =>
      "failed to read kubeconfig from '" ++ Text.quoted path ++ "': " ++ e.message
  | .malformed p => "failed to parse kubeconfig YAML: " ++ p.message
  | .misshapen m => "the structure of the parsed kubeconfig is invalid: " ++ m.message
  | .kindMismatch => "kubeconfigs with mismatching kind cannot be merged"
  | .versionMismatch => "kubeconfigs with mismatching api version cannot be merged"
  | .noContext => "failed to determine current context"
  | .unknownContext name => "failed to load current context: " ++ name
  | .unknownCluster name => "failed to load the cluster of context: " ++ name
  | .noServer => "cluster url is missing on selected cluster"
  | .badServer p => "failed to parse cluster url: " ++ p.message
  | .badCertificate => "failed to load certificate authority"
  | .badProxy p => "failed to parse proxy url: " ++ p.message

/-- What goes by a name: the first that does. -/
def Named.find? (name : String) (xs : List (Named α)) : Option α :=
  (xs.find? fun x => x.name == name).bind (·.value)

/-- Things under names, and behind them others whose names are new. -/
def Named.merge (xs ys : List (Named α)) : List (Named α) :=
  xs ++ ys.filter fun y => !xs.any (·.name == y.name)

namespace Kubeconfig

/-- A file that says nothing. -/
def empty : Kubeconfig := ⟨none, none, none, [], []⟩

/-! ## Reading -/

/-- Named things under a key, each of which stands under a key of its own. -/
def named (list key : String) (read : Yaml.Value → α) (v : Yaml.Value) : List (Named α) :=
  ((v.field? list).map (·.items)).getD [] |>.map fun item =>
    ⟨((item.field? "name").bind (·.text?)).getD "", (item.field? key).map read⟩

def textField? (key : String) (v : Yaml.Value) : Option String :=
  (v.field? key).bind (·.text?)

def contextOf (v : Yaml.Value) : KubeContext :=
  ⟨(textField? "cluster" v).getD "", textField? "user" v⟩

/-- A cluster of a file in a directory, in which the files it speaks of are looked for. -/
def clusterOf (directory : String) (v : Yaml.Value) : KubeCluster where
  server := textField? "server" v
  certificateFile := (textField? "certificate-authority" v).map (FilePath.join directory)
  certificateData := textField? "certificate-authority-data" v
  proxy := textField? "proxy-url" v

/-- What a document of a file in a directory says, if it has the right shape. -/
def ofValue (directory : String) (v : Yaml.Value) : Except KubeconfigError Kubeconfig :=
  match shape.check v with
  | .error m => .error (.misshapen m)
  | .ok () => .ok {
      kind := textField? "kind" v
      apiVersion := textField? "apiVersion" v
      currentContext := textField? "current-context" v
      contexts := named "contexts" "context" contextOf v
      clusters := named "clusters" "cluster" (clusterOf directory) v }

/-- The two values are there and differ. -/
def differ (a b : Option String) : Bool := a.isSome && b.isSome && a != b

/-- What two files say together. -/
def merge (c d : Kubeconfig) : Except KubeconfigError Kubeconfig :=
  if differ c.kind d.kind then .error .kindMismatch
  else if differ c.apiVersion d.apiVersion then .error .versionMismatch
  else .ok {
    kind := c.kind <|> d.kind
    apiVersion := c.apiVersion <|> d.apiVersion
    currentContext := c.currentContext <|> d.currentContext
    contexts := Named.merge c.contexts d.contexts
    clusters := Named.merge c.clusters d.clusters }

/-- The text without a mark of its encoding in front. -/
def withoutMark : List Char → List Char
  | '\ufeff' :: cs => cs
  | cs => cs

/-- What the text of a file says. -/
def ofText (directory text : String) : Except KubeconfigError Kubeconfig := do
  let documents := Yaml.Documents.ofText (withoutMark text.toList)
  let configs ← documents.values.mapM (ofValue directory)
  match documents.problem with
  | some p => throw (.malformed p)
  | none => configs.foldlM merge empty

def read [Monad m] (readFile : ReadFile m) (path : String) :
    m (Except KubeconfigError Kubeconfig) := do
  match ← readFile path with
  | .error e => return .error (.unreadable path e)
  | .ok text => return ofText (FilePath.directory path) text

/-- Reads files one after the other. -/
def readAll [Monad m] (readFile : ReadFile m) (c : Kubeconfig) :
    List String → m (Except KubeconfigError Kubeconfig)
  | [] => return .ok c
  | path :: paths => do
      match (← read readFile path).bind c.merge with
      | .error e => return .error e
      | .ok c => readAll readFile c paths

/-! ## Choosing -/

/-- The context to use: the one that is asked for, or else the file's own choice. -/
def chooseContext (c : Kubeconfig) (asked : Option String) : Except KubeconfigError KubeContext :=
  match asked <|> c.currentContext with
  | none => .error .noContext
  | some name =>
      match Named.find? name c.contexts with
      | some context => .ok context
      | none => .error (.unknownContext name)

/-- The cluster to use: the one that is asked for, or else the context's. -/
def chooseCluster (c : Kubeconfig) (context : KubeContext) (asked : Option String) :
    Except KubeconfigError KubeCluster :=
  let name := asked.getD context.cluster
  match Named.find? name c.clusters with
  | some cluster => .ok cluster
  | none => .error (.unknownCluster name)

end Kubeconfig

namespace KubeCluster

/-- The cluster's address. -/
def address (c : KubeCluster) : Except KubeconfigError String :=
  match c.server with
  | none => .error .noServer
  | some server =>
      match Http.Url.check server with
      | .error p => .error (.badServer p)
      | .ok () => .ok server

/-- The certificate can be read. -/
def checkCertificate [Monad m] (readFile : ReadFile m) (c : KubeCluster) :
    m (Except KubeconfigError Unit) := do
  let readable ← match c.certificateData, c.certificateFile with
    | some data, _ => pure (Base64.decode? data.toList).isSome
    | none, some path => do pure (← readFile path).toBool
    | none, none => pure true
  return if readable then .ok () else .error .badCertificate

/-- The proxy is at an address; where none is given, another one may be. -/
def checkProxy (c : KubeCluster) (others : List String) : Except KubeconfigError Unit :=
  match (c.proxy.toList ++ others).find? (!·.isEmpty) with
  | none => .ok ()
  | some proxy =>
      match Http.Url.check proxy with
      | .error p => .error (.badProxy p)
      | .ok () => .ok ()

/-- The address of a cluster about which all else is in order, too. -/
def connect [Monad m] (readFile : ReadFile m) (proxies : List String) (c : KubeCluster) :
    m (Except KubeconfigError String) := do
  match c.address with
  | .error e => return .error e
  | .ok address =>
      match ← c.checkCertificate readFile with
      | .error e => return .error e
      | .ok () => return (c.checkProxy proxies).map fun () => address

end KubeCluster

end FaasOperator
