/-
# `FaasOperator.Function.Spec` — the declaration of a serverless function

The workload that should run the function, as its user declares it.  An absent map or list is a
different declaration from an empty one, and is written differently; whether the difference matters
is for those to say who compare or render declarations.
-/
import FaasOperator.StringMap

namespace FaasOperator

/-- Amounts of memory and processor time, as written by the user. -/
structure FunctionResources where
  memory : Option String
  cpu : Option String
deriving DecidableEq

/-- What the user declares about a function. -/
structure FunctionSpec where
  /-- The name of the Deployment and the Service that run the function. -/
  name : String
  image : String
  replicas : Option Int32
  /-- The process that serves the function. -/
  handler : String
  annotations : Option (StringMap String)
  labels : Option (StringMap String)
  environment : Option (StringMap String)
  /-- Terms of the node selector, each of the form `key=value`. -/
  constraints : Option (List String)
  /-- Names of Secrets in the function's namespace. -/
  secrets : Option (List String)
  limits : Option FunctionResources
  requests : Option FunctionResources
  readOnlyRootFilesystem : Bool
deriving DecidableEq

def FunctionSpec.empty : FunctionSpec :=
  ⟨"", "", none, "", none, none, none, none, none, none, none, false⟩

end FaasOperator
