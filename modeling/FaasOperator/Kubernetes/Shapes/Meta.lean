/-
# `FaasOperator.Kubernetes.Shapes.Meta` — shapes of what objects of all kinds have in common

Metadata, selectors, references and conditions, with the fields of version 1.33 of the API.
-/
import FaasOperator.Json.Shape

namespace FaasOperator.Shapes

open Json Json.Shape

/-- A record of an earlier write and the fields that it owns. -/
def managedFieldsEntry : Shape := .record (
  optional .text ["apiVersion", "fieldsType", "manager", "operation", "subresource"] ++
  optional .any ["fieldsV1"] ++
  optional .time ["time"])

def ownerReference : Shape := .record (
  blank .text ["apiVersion", "kind", "name", "uid"] ++
  optional .flag ["blockOwnerDeletion", "controller"])

def objectMetaFields : List (Label × Shape) :=
  optional .text ["generateName", "name", "namespace", "resourceVersion", "selfLink", "uid"] ++
  optional .textMap ["annotations", "labels"] ++
  optional .texts ["finalizers"] ++
  optional .int64 ["deletionGracePeriodSeconds", "generation"] ++
  optional .time ["creationTimestamp", "deletionTimestamp"] ++
  optional (.list managedFieldsEntry) ["managedFields"] ++
  optional (.list ownerReference) ["ownerReferences"]

def objectMeta : Shape := .record objectMetaFields

/-- A condition on the values of a key. -/
def requirement : Shape := .record (
  blank .text ["key", "operator"] ++
  optional .texts ["values"])

def labelSelectorFields : List (Label × Shape) :=
  optional (.list requirement) ["matchExpressions"] ++
  optional .textMap ["matchLabels"]

def labelSelector : Shape := .record labelSelectorFields

/-- A reference to an object of the same namespace. -/
def localReference : Shape := .record (blank .text ["name"])

/-- A reference to any object. -/
def objectReference : Shape := .record (
  optional .text ["apiVersion", "fieldPath", "kind", "name", "namespace", "resourceVersion", "uid"])

/-- A condition that an object is in, with the time since when. -/
def condition : Shape := .record (
  required .time ["lastTransitionTime"] ++
  blank .text ["message", "reason", "status", "type"] ++
  optional .int64 ["observedGeneration"])

/-- Amounts by resource. -/
def quantities : Shape := .textMap

end FaasOperator.Shapes
