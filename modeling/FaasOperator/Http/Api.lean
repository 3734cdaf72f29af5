/-
# `FaasOperator.Http.Api` — the calls of a reconcile as requests

Each call of a plan is a request to the API server under the path of its kind and namespace.  What
is written names the operator as the writer; what is read does not.
-/
import FaasOperator.Cluster.Plan
import FaasOperator.Http.Message
import FaasOperator.Kubernetes.Deployment.Text

namespace FaasOperator.Http

open Json

/-- The name under which the operator writes. -/
def controllerName : String := "function-controller"

/-- The query of a request that writes. -/
def writerQuery : String := "?&fieldManager=" ++ controllerName

/-- The path of a kind of object in a namespace; the version of the API says where it begins. -/
def collectionPath (apiVersion plural ns : String) : String :=
  (if apiVersion.contains '/' then "/apis/" else "/api/") ++ apiVersion ++
    "/namespaces/" ++ ns ++ "/" ++ plural

def servicesPath : String → String := collectionPath Service.apiVersion "services"

def secretsPath : String → String := collectionPath Secret.apiVersion "secrets"

def deploymentsPath : String → String := collectionPath Deployment.apiVersion "deployments"

def functionsPath : String → String := collectionPath FunctionObject.apiVersion "functions"

/-- A request about one object, which has to have a name. -/
def namedRequest (method : Method) (collection name rest : String) (body : Option Json) :
    Except ClusterError Request :=
  if name.isEmpty then .error .unaddressable
  else Request.make? method (collection ++ "/" ++ name ++ rest) body

def createServiceRequest (s : Service) : Except ClusterError Request :=
  Request.make? .post (servicesPath s.metadata.anyNamespace ++ writerQuery) (some s.toJson)

def createDeploymentRequest (d : Deployment) : Except ClusterError Request :=
  Request.make? .post (deploymentsPath d.metadata.anyNamespace ++ writerQuery) (some d.toJson)

def updateDeploymentRequest (d : Deployment) : Except ClusterError Request :=
  namedRequest .put (deploymentsPath d.metadata.anyNamespace) d.metadata.anyName writerQuery
    (some d.toJson)

def getSecretRequest (ns name : String) : Except ClusterError Request :=
  namedRequest .get (secretsPath ns) name "" none

/-- The request that reports a function's status. -/
def patchStatusRequest (ns name : String) (status : FunctionStatus) : Except ClusterError Request :=
  namedRequest .patch (functionsPath ns) name ("/status" ++ writerQuery)
    (some (.record [("status", status.toJson)]))

end FaasOperator.Http
