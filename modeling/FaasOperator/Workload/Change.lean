/-
# `FaasOperator.Workload.Change` — what has changed between two declarations

As far as it matters to the workload: an absent map or list is as good as an empty one, Secrets are
compared as a set, and constraints by the node selector that they make, so that a repeated key
counts the way it does on the Deployment.  A Deployment is compared through the declaration that it
carries (`Deployment.needsUpdate`).
-/
import FaasOperator.Workload.Deployment

namespace FaasOperator

def nonEmptyMap? (m : Option (StringMap String)) : Option (StringMap String) :=
  m.filter fun m => !m.isEmpty

/-- The texts as a set. -/
def textSet (xs : Option (List String)) : StringMap Unit :=
  StringMap.ofList ((xs.getD []).map fun x => (x, ()))

def nonEmptyText? (s : Option String) : Option String := s.filter fun s => !s.isEmpty

/-- Memory and processor time, as far as they say something. -/
def statedResources (r : Option FunctionResources) : Option String × Option String :=
  match r with
  | none => (none, none)
  | some r => (nonEmptyText? r.memory, nonEmptyText? r.cpu)

/-- The fields of a declaration, each with the test for an equal one. -/
def fieldTests (a b : FunctionSpec) : List (String × Bool) := [
  ("name", a.name == b.name),
  ("image", a.image == b.image),
  ("replicas", a.replicas == b.replicas),
  ("handler", a.handler == b.handler),
  ("annotations", nonEmptyMap? a.annotations == nonEmptyMap? b.annotations),
  ("labels", nonEmptyMap? a.labels == nonEmptyMap? b.labels),
  ("environment", nonEmptyMap? a.environment == nonEmptyMap? b.environment),
  ("constraints", nodeSelector (a.constraints.getD []) == nodeSelector (b.constraints.getD [])),
  ("secrets", textSet a.secrets == textSet b.secrets),
  ("limits", statedResources a.limits == statedResources b.limits),
  ("requests", statedResources a.requests == statedResources b.requests),
  ("readOnlyRootFilesystem", a.readOnlyRootFilesystem == b.readOnlyRootFilesystem)]

/-- The fields that differ, in the order of the declaration. -/
def changedFields (a b : FunctionSpec) : List String :=
  ((fieldTests a b).filter fun t => !t.2).map (·.1)

/-- A Deployment has to be replaced unless it says that it was made from a declaration that does not
differ.  One that says nothing, or nothing that can be read, has to be replaced. -/
def needsUpdate (s : FunctionSpec) (d : Deployment) : Bool :=
  match d.metadata.annotation? specAnnotation with
  | none => true
  | some text =>
      match FunctionSpec.parse text with
      | .error _ => true
      | .ok prior => !(changedFields prior s).isEmpty

end FaasOperator
