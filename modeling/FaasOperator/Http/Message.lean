/-
# `FaasOperator.Http.Message` — requests and responses

A response is read by its status: one from 400 to 599 tells of an error, in the server's own words
where its body is an error response and by quoting the body where it is not; any other carries an
object.
-/
import FaasOperator.Cluster.Error
import FaasOperator.Http.Target
import FaasOperator.Json.Decoder

namespace FaasOperator.Http

open Json

inductive Method where
  | get
  | post
  | put
  | patch
deriving DecidableEq

def Method.render : Method → String
  | .get => "GET"
  | .post => "POST"
  | .put => "PUT"
  | .patch => "PATCH"

/-- The media type of a request's body; one without a body has none. -/
def Method.contentType : Method → Option String
  | .get => none
  | .post | .put => some "application/json"
  | .patch => some "application/merge-patch+json"

structure Request where
  method : Method
  target : Target
  body : Option Json

/-- A response, or none because the connection failed. -/
inductive Response where
  | answer (status : Nat) (body : String)
  | failed

/-- A request for the text of a target. -/
def Request.make? (method : Method) (target : String) (body : Option Json) :
    Except ClusterError Request :=
  match Target.parse? target with
  | none => .error .unaddressable
  | some t => .ok ⟨method, t, body⟩

/-! ## Errors of the API server -/

/-- An error response read in part. -/
structure ErrorDraft where
  status : Option String
  message : Option String
  reason : Option String
  code : Option UInt16

def errorFields : List (RecordField ErrorDraft) := [
  .once "status" .string (·.status) (fun v d => { d with status := some v }) false,
  .once "message" .string (·.message) (fun v d => { d with message := some v }) true,
  .once "reason" .string (·.reason) (fun v d => { d with reason := some v }) true,
  .once "code" .uint16 (·.code) (fun v d => { d with code := some v }) false]

/-- Status and code must be there; the texts may be missing. -/
def ErrorDraft.finish (d : ErrorDraft) : Except Problem ErrorResponse :=
  match d.status, d.code with
  | some status, some code => .ok ⟨status, d.message.getD "", d.reason.getD "", code⟩
  | _, _ => .error .mismatch

def decodeError : Decoder ErrorResponse := fun doc =>
  match Decoder.strict errorFields ⟨none, none, none, none⟩ doc with
  | .error p => .error p
  | .ok d => d.finish

/-- The error that a response tells of.  Where its body is not an error response, the body is
quoted. -/
def errorOf (status : Nat) (body : String) : ErrorResponse :=
  match decodeText decodeError body with
  | .ok e => e
  | .error _ =>
      ⟨toString status, Text.quoted body, "Failed to parse error data", .ofNat status⟩

/-- A status that tells of an error, be it the client's or the server's. -/
def isErrorStatus (status : Nat) : Bool := 400 ≤ status && status < 600

def Response.read (decode : Decoder α) : Response → Except ClusterError α
  | .failed => .error .unreachable
  | .answer status body =>
      if isErrorStatus status then .error (.api (errorOf status body))
      else
        match decodeText decode body with
        | .ok a => .ok a
        | .error _ => .error .undecodable

end FaasOperator.Http
