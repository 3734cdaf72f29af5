/-
# `FaasOperator.Workload.Deployment` — the Deployment of a function, and the Service in front of it

Rendering is a function of the declaration, the owner and the Secrets (`FunctionObject.deployment`).
The Deployment carries the declaration that it was made from as an annotation, so that a later
declaration can be compared with it.  The user's own labels and annotations replace the
controller's, that one annotation apart.

A node selector has the constraints of the form `key=value`, with one equals sign, as its terms;
every other constraint is passed over, and of two terms with one key the later one stays.

The Service is made once and never changed: nothing that it says depends on the declaration except
the name.
-/
import FaasOperator.Kubernetes.Service
import FaasOperator.PullPolicy
import FaasOperator.Text
import FaasOperator.Workload.ReadOnly
import FaasOperator.Workload.Resources
import FaasOperator.Workload.Secrets

namespace FaasOperator

/-- The annotation that holds the declaration. -/
def specAnnotation : String := "com.openfaas.function.spec"

/-- The annotation that says whether metrics are to be collected. -/
def scrapeAnnotation : String := "prometheus.io.scrape"

def functionPort : Int32 := 8080

/-- The file by which a running function shows that it is ready. -/
def lockFile : String := "/tmp/.lock"

/-- How many earlier versions of a Deployment are kept. -/
def revisionHistoryLimit : Int32 := 5

/-- The label by which a Service finds the pods of a function. -/
def functionLabel : String := "faas_function"

def nodeSelectorTerm? (constraint : String) : Option (String × String) :=
  match Text.pieces '=' constraint.toList with
  | [key, value] => some (String.ofList key, String.ofList value)
  | _ => none

/-- The selector of a list of constraints; without a single term there is none. -/
def nodeSelector (constraints : List String) : Option (StringMap String) :=
  let selector := StringMap.ofList (constraints.filterMap nodeSelectorTerm?)
  if selector.isEmpty then none else some selector

namespace FunctionSpec

/-- The annotations of the workload: no metrics unless the user says otherwise, the user's own, and
the declaration, which the user cannot replace. -/
def workloadAnnotations (s : FunctionSpec) : StringMap String :=
  (((∅ : StringMap String).insert scrapeAnnotation "false").overlay (s.annotations.getD ∅)).insert
    specAnnotation s.render

/-- The environment of the container: the process to serve with, then the user's variables by name.
-/
def containerEnv (s : FunctionSpec) : List EnvVar :=
  (if s.handler.isEmpty then [] else [⟨"fprocess", some s.handler, ∅⟩]) ++
    (s.environment.getD ∅).entries.map fun (name, value) => ⟨name, some value, ∅⟩

end FunctionSpec

def functionProbe : Probe where
  command := some (some ["cat", lockFile])
  initialDelaySeconds := some 3
  timeoutSeconds := some 1
  periodSeconds := some 5
  successThreshold := some 1
  failureThreshold := some 2

namespace FunctionObject

/-- The labels of the pods; the user's own replace the controller's. -/
def podLabels (f : FunctionObject) : StringMap String :=
  (((((∅ : StringMap String).insert functionLabel f.spec.name).insert "app" f.spec.name).insert
    "controller" f.metadata.anyName)).overlay (f.spec.labels.getD ∅)

/-- The labels by which the Deployment knows its pods. -/
def selectorLabels (f : FunctionObject) : StringMap String :=
  ((∅ : StringMap String).insert "app" f.spec.name).insert "controller" f.metadata.anyName

def container (f : FunctionObject) (policy : PullPolicy) : Container where
  name := f.spec.name
  image := some f.spec.image
  imagePullPolicy := some policy.render
  ports := some [⟨functionPort, some "TCP", ∅⟩]
  env := some f.spec.containerEnv
  resources := f.spec.containerResources
  livenessProbe := some functionProbe
  readinessProbe := some functionProbe
  securityContext := none
  volumeMounts := none

/-- The pod before it gets its volumes. -/
def pod (f : FunctionObject) (policy : PullPolicy) : PodSpec where
  containers := [f.container policy]
  volumes := none
  nodeSelector := nodeSelector (f.spec.constraints.getD [])
  imagePullSecrets := none

/-- The metadata of what the function owns. -/
def ownedMeta (f : FunctionObject) (owner : OwnerReference) (annotations : StringMap String) :
    ObjectMeta :=
  { ObjectMeta.empty with
    name := some f.spec.name
    ns := f.metadata.ns
    annotations := some annotations
    ownerReferences := some [owner] }

/-- The Deployment before its pod gets its volumes.  Pods are replaced one by one, none being
missing at any time. -/
def bareDeployment (f : FunctionObject) (owner : OwnerReference) (policy : PullPolicy) :
    Deployment where
  metadata := f.ownedMeta owner f.spec.workloadAnnotations
  spec := some {
    replicas := f.spec.replicas
    strategy := some ⟨some "RollingUpdate", some ⟨some (.int 1), some (.int 0)⟩⟩
    selector := ⟨some f.selectorLabels, ∅⟩
    revisionHistoryLimit := some revisionHistoryLimit
    template := {
      metadata := some { ObjectMeta.empty with
        labels := some f.podLabels
        annotations := some f.spec.workloadAnnotations }
      spec := some (f.pod policy) } }
  status := none

/-- The Deployment that runs the function. -/
def deployment (f : FunctionObject) (owner : OwnerReference) (secrets : Secrets)
    (policy : PullPolicy) : Deployment :=
  ((f.bareDeployment owner policy).configureReadOnly f.spec.readOnlyRootFilesystem).updateSecrets
    f.spec secrets

/-- The Service in front of the function's pods. -/
def service (f : FunctionObject) (owner : OwnerReference) : Service where
  metadata := f.ownedMeta owner ((∅ : StringMap String).insert scrapeAnnotation "false")
  spec := some {
    type := some "ClusterIP"
    selector := some ((∅ : StringMap String).insert functionLabel f.spec.name)
    ports := some [⟨some "http", some "TCP", functionPort, some (.int functionPort), ∅⟩] }

end FunctionObject

end FaasOperator
