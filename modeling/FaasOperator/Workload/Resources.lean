/-
# `FaasOperator.Workload.Resources` — the resources of a function's container

They are taken over whole or not at all: one amount that is not a quantity leaves the container
without any.  An empty amount, an absent one, and a record without amounts are all as good as
nothing said.
-/
import FaasOperator.Function.Spec
import FaasOperator.Kubernetes.Pod

namespace FaasOperator

/-- Puts the amount of a resource into the list.  An empty amount is as good as none. -/
def addQuantity (list : StringMap Quantity) (resource : String) (amount : Option String) :
    Except QuantityError (StringMap Quantity) :=
  match amount with
  | none => .ok list
  | some amount =>
      if amount.isEmpty then .ok list
      else (Quantity.parse amount).map (list.insert resource)

/-- The amounts of a record by resource. -/
def FunctionResources.quantities (r : FunctionResources) :
    Except QuantityError (StringMap Quantity) :=
  match addQuantity ∅ "memory" r.memory with
  | .error e => .error e
  | .ok list => addQuantity list "cpu" r.cpu

/-- The amounts of a record that may be absent; no amounts are as good as no record. -/
def quantityList (r : Option FunctionResources) :
    Except QuantityError (Option (StringMap Quantity)) :=
  match r with
  | none => .ok none
  | some r => r.quantities.map fun list => if list.isEmpty then none else some list

namespace FunctionSpec

/-- The requirements that the declaration states, or the first amount that is no quantity. -/
def resourceRequirements (s : FunctionSpec) :
    Except QuantityError (Option ResourceRequirements) :=
  match quantityList s.limits with
  | .error e => .error e
  | .ok limits =>
      match quantityList s.requests with
      | .error e => .error e
      | .ok requests =>
          .ok (if limits.isNone && requests.isNone then none else some ⟨limits, requests, ∅⟩)

def containerResources (s : FunctionSpec) : Option ResourceRequirements :=
  match s.resourceRequirements with
  | .ok r => r
  | .error _ => none

end FunctionSpec

end FaasOperator
