/-
# `FaasOperator.Http.Client` — carrying out calls over HTTP

The service behind it can be anything that answers requests and has a state.  A request that could
not be made is answered by an error without being sent.
-/
import FaasOperator.Http.Events

namespace FaasOperator.Http

/-- Answers requests, with a state. -/
abbrev Transport (σ : Type) := Request → σ → Response × σ

/-- A service, the recorder of events, and the time. -/
structure Client (σ : Type) where
  service : σ
  recorder : Recorder
  moment : Moment

namespace Client

variable {σ : Type} {α : Type}

/-- Sends a request, if one could be made, and reads what its response carries. -/
def exchange (transport : Transport σ) (request : Except ClusterError Request)
    (decode : Json.Decoder α) (c : Client σ) : Except ClusterError α × Client σ :=
  match request with
  | .error e => (.error e, c)
  | .ok request =>
      let (response, service) := transport request c.service
      (response.read decode, { c with service := service })

/-- Publishes an event; one that fails to be published is not remembered. -/
def publish (transport : Transport σ) (n : Notice) (c : Client σ) : Client σ :=
  let event := c.recorder.eventFor c.moment n
  match c.exchange transport event.request Event.decode with
  | (.ok (), c) => { c with recorder := c.recorder.remember event }
  | (.error _, c) => c

/-- The result without its object. -/
def forget (r : Except ClusterError α × Client σ) : Except ClusterError Unit × Client σ :=
  (r.1.map fun _ => (), r.2)

def answer (transport : Transport σ) (call : Call) (c : Client σ) : call.Answer × Client σ :=
  match call with
  | .createService s =>
      forget (c.exchange transport (createServiceRequest s) Service.decode)
  | .createDeployment d => c.exchange transport (createDeploymentRequest d) Deployment.decode
  | .updateDeployment d => c.exchange transport (updateDeploymentRequest d) Deployment.decode
  | .getSecret ns name => c.exchange transport (getSecretRequest ns name) Secret.decode
  | .patchStatus ns name status =>
      forget (c.exchange transport (patchStatusRequest ns name status) FunctionObject.decode)
  | .publish n => ((), c.publish transport n)

def carryOut (transport : Transport σ) (p : Plan α) (c : Client σ) : α × Client σ :=
  p.run (answer transport) c

end Client

end FaasOperator.Http
