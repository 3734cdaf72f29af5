/-
# `FaasOperator.Http.Events` — publishing events about functions

An event that was published before is not published again: the first one is patched to say how often
it has happened.  The recorder remembers an event only if it was published, so that one that failed
is tried as a new one the next time.
-/
import FaasOperator.Http.Api

namespace FaasOperator.Http

open Json

/-- The object that an event is about. -/
structure ObjectReference where
  apiVersion : String
  kind : String
  name : Option String
  ns : Option String
  uid : Option String
deriving DecidableEq

def ObjectReference.ofFunction (f : FunctionObject) : ObjectReference :=
  ⟨FunctionObject.apiVersion, FunctionObject.kind, f.metadata.name, f.metadata.ns, f.metadata.uid⟩

def ObjectReference.toJson (r : ObjectReference) : Json :=
  Json.present [
    ("apiVersion", some (.text r.apiVersion)),
    ("kind", some (.text r.kind)),
    ("name", r.name.map .text),
    ("namespace", r.ns.map .text),
    ("uid", r.uid.map .text)]

/-- When something happened: as part of a name, and as a time. -/
structure Moment where
  stamp : String
  time : String
deriving DecidableEq

/-- How often an event has happened, and when it did last. -/
structure EventSeries where
  count : Nat
  lastObserved : String
deriving DecidableEq

/-- What makes two events the same. -/
structure EventKey where
  kind : NoticeKind
  reason : String
  regarding : ObjectReference
deriving DecidableEq

structure Event where
  key : EventKey
  name : String
  note : String
  reporter : String
  time : String
  series : Option EventSeries
deriving DecidableEq

/-- What the operator does when it publishes events. -/
def eventAction : String := "Reconcile"

namespace Event

def apiVersion : String := "events.k8s.io/v1"

def kind : String := "Event"

def toJson (e : Event) : Json :=
  Json.present [
    ("action", some (.text eventAction)),
    ("apiVersion", some (.text apiVersion)),
    ("eventTime", some (.text e.time)),
    ("kind", some (.text kind)),
    ("metadata", some (Json.present [
      ("name", some (.text e.name)),
      ("namespace", e.key.regarding.ns.map .text)])),
    ("note", some (.text e.note)),
    ("reason", some (.text e.key.reason)),
    ("regarding", some e.key.regarding.toJson),
    ("reportingController", some (.text controllerName)),
    ("reportingInstance", some (.text e.reporter)),
    ("series", e.series.map fun s => .record [
      ("count", Json.nat s.count),
      ("lastObservedTime", .text s.lastObserved)]),
    ("type", some (.text e.key.kind.render))]

def eventsPath (r : ObjectReference) : String :=
  collectionPath apiVersion "events" (r.ns.getD "default")

/-- Reads a response that should be an event; its contents are not looked at further. -/
def decode : Decoder Unit :=
  Decoder.extended [.fixed "apiVersion" apiVersion, .fixed "kind" kind] Shapes.eventFields
    (fun _ u => u) ()

/-- The request that publishes an event: the first of its kind is created, a later one patched. -/
def request (e : Event) : Except ClusterError Request :=
  match e.series with
  | none => Request.make? .post (eventsPath e.key.regarding ++ "?") (some e.toJson)
  | some _ => namedRequest .patch (eventsPath e.key.regarding) e.name "?" (some e.toJson)

end Event

/-- Publishes events on behalf of one running instance of the operator. -/
structure Recorder where
  /-- The host that the operator runs on, if it is known. -/
  hostname : Option String
  /-- The events published so far, each as it was published last. -/
  published : List (EventKey × Event)
deriving DecidableEq

namespace Recorder

/-- A recorder that has published nothing. -/
def new (hostname : Option String) : Recorder := ⟨hostname, []⟩

/-- An event that was not published before. -/
def firstEvent (r : Recorder) (moment : Moment) (key : EventKey) (note : String) : Event where
  key := key
  name := key.regarding.name.getD controllerName ++ "." ++ moment.stamp
  note := note
  reporter := r.hostname.getD controllerName
  time := moment.time
  series := none

/-- An event that was published before, once more. -/
def repeated (moment : Moment) (e : Event) : Event :=
  { e with series := some ⟨(e.series.map (·.count)).getD 1 + 1, moment.time⟩ }

/-- The event to publish for a notice. -/
def eventFor (r : Recorder) (moment : Moment) (n : Notice) : Event :=
  let key : EventKey := ⟨n.kind, n.reason, .ofFunction n.function⟩
  match r.published.lookup key with
  | some e => repeated moment e
  | none => r.firstEvent moment key n.message

def remember (e : Event) (r : Recorder) : Recorder :=
  { r with published := (e.key, e) :: r.published.filter fun p => p.1 != e.key }

end Recorder

end FaasOperator.Http
