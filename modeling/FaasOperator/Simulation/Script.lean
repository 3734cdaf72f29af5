/-
# `FaasOperator.Simulation.Script` — a scripted API server

It gives each request the first response of the script that is meant for it and was not given
before; where the script is silent, what is read is not found, and what is written is echoed.
-/
import FaasOperator.Http.Client
import FaasOperator.Index

namespace FaasOperator.Simulation

open Http

/-- A response meant for a request of this method to this path. -/
structure ScriptedResponse where
  method : String
  path : String
  response : Response

/-- The responses not given yet, and the requests received so far, the last one first. -/
structure Script where
  responses : List ScriptedResponse
  requests : List Request

namespace Script

def ScriptedResponse.fits (r : ScriptedResponse) (request : Request) : Bool :=
  r.method == request.method.render && r.path == request.target.path

/-- Takes the first response out of the script that is meant for the request. -/
def take? (request : Request) : List ScriptedResponse → Option (Response × List ScriptedResponse)
  | [] => none
  | r :: rs =>
      if ScriptedResponse.fits r request then some (r.response, rs)
      else (take? request rs).map fun (response, rs) => (response, r :: rs)

/-- The response for an object that is not there. -/
def notFound (request : Request) : Response :=
  .answer 404 (Json.render (.record [
    ("apiVersion", .text "v1"),
    ("kind", .text "Status"),
    ("status", .text "Failure"),
    ("message", .text (request.target.lastSegment ++ " not found")),
    ("reason", .text "NotFound"),
    ("code", Json.nat 404)]))

/-- The response where the script is silent. -/
def unscripted (request : Request) : Response :=
  match request.method with
  | .get => notFound request
  | .post | .put | .patch =>
      if request.target.lastSegment == "status" then
        .answer 200 (Json.render (.record [("metadata", .record []), ("spec", .record [])]))
      else
        .answer (if request.method = .post then 201 else 200)
          ((request.body.map Json.render).getD "")

def respond (request : Request) (s : Script) : Response × Script :=
  let s := { s with requests := request :: s.requests }
  match take? request s.responses with
  | some (response, rest) => (response, { s with responses := rest })
  | none => (unscripted request, s)

end Script

/-- A reconciler over a scripted server, and a second recorder that publishes on its own. -/
structure Session where
  config : ReconcileConfig
  index : Index
  script : Script
  recorder : Recorder
  spareRecorder : Recorder
  moment : Moment

namespace Session

/-- Answers a call with the reconciler's own recorder. -/
def answer (call : Call) (s : Session) : call.Answer × Session :=
  let (a, client) := Client.answer Script.respond call ⟨s.script, s.recorder, s.moment⟩
  (a, { s with script := client.service, recorder := client.recorder })

/-- Publishes an event with the second recorder. -/
def publish (n : Notice) (s : Session) : Session :=
  let client := Client.publish Script.respond n ⟨s.script, s.spareRecorder, s.moment⟩
  { s with script := client.service, spareRecorder := client.recorder }

def reconcile (key : ResourceKey) (s : Session) : Except ReconcileError Outcome × Session :=
  (sync s.config s.index.observed key).run answer s

/-- Takes in a watch's news. -/
def notify (n : Notification) (s : Session) : Session :=
  { s with index := (s.index.notify n).1 }

def addResponse (r : ScriptedResponse) (s : Session) : Session :=
  { s with script := { s.script with responses := s.script.responses ++ [r] } }

/-- Hands over the requests received so far, in order. -/
def takeRequests (s : Session) : List Request × Session :=
  (s.script.requests.reverse, { s with script := { s.script with requests := [] } })

end Session

end FaasOperator.Simulation
