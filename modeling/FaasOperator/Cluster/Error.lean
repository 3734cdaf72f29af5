/-
# `FaasOperator.Cluster.Error` — why a call to the cluster fails

A call fails with the API server's own account of the failure, or because there was no answer that
could be read.  Two accounts matter to a reconcile, by their reason and code: that an object is
there already, and that there is none.
-/
import FaasOperator.Text.Quoted

namespace FaasOperator

/-- The API server's own account of a failure. -/
structure ErrorResponse where
  status : String
  message : String
  reason : String
  code : UInt16
deriving DecidableEq

/-- A failed call. -/
inductive ClusterError where
  /-- The API server refused. -/
  | api (response : ErrorResponse)
  /-- The answer is not an object of the kind that was asked for. -/
  | undecodable
  /-- No answer came. -/
  | unreachable
  /-- No request could be made, for example because the object has no name. -/
  | unaddressable
  /-- The answer's stream of lines is broken. -/
  | unframed
deriving DecidableEq

namespace ClusterError

def isAlreadyExists : ClusterError → Bool
  | .api r => r.reason == "AlreadyExists"
  | _ => false

def isNotFound : ClusterError → Bool
  | .api r => r.code == 404
  | _ => false

end ClusterError

/-- All that the server said, field by field. -/
def ErrorResponse.render (r : ErrorResponse) : String :=
  "ErrorResponse \x7b status: " ++ Text.quoted r.status ++ ", message: " ++ Text.quoted r.message ++
    ", reason: " ++ Text.quoted r.reason ++ ", code: " ++ toString r.code.toNat ++ " \x7d"

def ClusterError.message : ClusterError → String
  | .api r => "ApiError: " ++ r.message ++ ": " ++ r.reason ++ " (" ++ r.render ++ ")"
  | .undecodable => "Error deserializing response"
  | .unreachable => "ServiceError: no answer"
  | .unaddressable => "Error building request"
  | .unframed => "Error finding newline character"

end FaasOperator
