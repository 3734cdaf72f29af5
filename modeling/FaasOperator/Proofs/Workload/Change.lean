/-
# `FaasOperator.Proofs.Workload.Change` — when nothing has changed between two declarations

It is said field by field (`FunctionSpec.Unchanged`).  The annotation of a Deployment decides
whether it needs an update (`needsUpdate_by_annotation`):

* the Deployment rendered from a declaration holds exactly that declaration, whatever annotations
  the user wrote, so that a later declaration needs an update exactly when some field has changed
  since;
* any other Deployment needs one unless it carries a declaration since which no field has changed;
  what carries none, or a text that is none, needs one.
-/
import FaasOperator.Proofs.Function.Text
import FaasOperator.Workload.Change

namespace FaasOperator

/-- The two declarations say the same as far as the workload is concerned. -/
structure FunctionSpec.Unchanged (a b : FunctionSpec) : Prop where
  name : a.name = b.name
  image : a.image = b.image
  replicas : a.replicas = b.replicas
  handler : a.handler = b.handler
  annotations : nonEmptyMap? a.annotations = nonEmptyMap? b.annotations
  labels : nonEmptyMap? a.labels = nonEmptyMap? b.labels
  environment : nonEmptyMap? a.environment = nonEmptyMap? b.environment
  constraints : nodeSelector (a.constraints.getD []) = nodeSelector (b.constraints.getD [])
  secrets : textSet a.secrets = textSet b.secrets
  limits : statedResources a.limits = statedResources b.limits
  requests : statedResources a.requests = statedResources b.requests
  readOnlyRootFilesystem : a.readOnlyRootFilesystem = b.readOnlyRootFilesystem

theorem changedFields_eq_nil_iff_tests {a b : FunctionSpec} :
    changedFields a b = [] ↔ ∀ t ∈ fieldTests a b, t.2 = true := by
  rw [changedFields, List.map_eq_nil_iff, List.filter_eq_nil_iff]
  constructor
  · intro h t ht
    simpa using h t ht
  · intro h t ht
    simp [h t ht]

theorem changedFields_eq_nil_iff {a b : FunctionSpec} :
    changedFields a b = [] ↔ a.Unchanged b := by
  rw [changedFields_eq_nil_iff_tests]
  simp only [fieldTests, List.mem_cons, List.not_mem_nil, or_false, forall_eq_or_imp, forall_eq,
    beq_iff_eq]
  constructor
  · rintro ⟨h₁, h₂, h₃, h₄, h₅, h₆, h₇, h₈, h₉, h₁₀, h₁₁, h₁₂⟩
    exact ⟨h₁, h₂, h₃, h₄, h₅, h₆, h₇, h₈, h₉, h₁₀, h₁₁, h₁₂⟩
  · intro h
    exact ⟨h.name, h.image, h.replicas, h.handler, h.annotations, h.labels, h.environment,
      h.constraints, h.secrets, h.limits, h.requests, h.readOnlyRootFilesystem⟩

theorem changedFields_self (s : FunctionSpec) : changedFields s s = [] :=
  changedFields_eq_nil_iff.mpr ⟨rfl, rfl, rfl, rfl, rfl, rfl, rfl, rfl, rfl, rfl, rfl, rfl⟩

/-! ## Secrets as a set -/

theorem contains_textSet (xs : Option (List String)) (x : String) :
    (textSet xs).contains x = true ↔ x ∈ xs.getD [] := by
  rw [textSet, StringMap.contains_ofList]
  simp

theorem textSet_eq_iff {xs ys : Option (List String)} :
    textSet xs = textSet ys ↔ ∀ x, x ∈ xs.getD [] ↔ x ∈ ys.getD [] := by
  constructor
  · intro h x
    rw [← contains_textSet, h, contains_textSet]
  · intro h
    apply StringMap.ext_get?
    intro x
    have hx := h x
    rw [← contains_textSet, ← contains_textSet, StringMap.contains, StringMap.contains,
      ← Bool.eq_iff_iff] at hx
    -- there is only one value to have
    cases hxs : (textSet xs).get? x <;> cases hys : (textSet ys).get? x <;> simp_all

/-! ## The annotation -/

theorem FunctionSpec.get?_workloadAnnotations (s : FunctionSpec) :
    s.workloadAnnotations.get? specAnnotation = some s.render :=
  StringMap.get?_insert_self _ _ _

theorem Deployment.metadata_configureReadOnly (readOnly : Bool) (d : Deployment) :
    (d.configureReadOnly readOnly).metadata = d.metadata := rfl

theorem Deployment.metadata_updateSecrets (s : FunctionSpec) (secrets : Secrets) (d : Deployment) :
    (d.updateSecrets s secrets).metadata = d.metadata := rfl

theorem FunctionObject.metadata_deployment (f : FunctionObject) (owner : OwnerReference)
    (secrets : Secrets) (policy : PullPolicy) :
    (f.deployment owner secrets policy).metadata =
      f.ownedMeta owner f.spec.workloadAnnotations := by
  rw [FunctionObject.deployment, Deployment.metadata_updateSecrets,
    Deployment.metadata_configureReadOnly]
  rfl

theorem needsUpdate_of_declared {d : Deployment} {prior : FunctionSpec}
    (h : d.metadata.annotation? specAnnotation = some prior.render) (s : FunctionSpec) :
    needsUpdate s d = !(changedFields prior s).isEmpty := by
  simp only [needsUpdate, h, FunctionSpec.parse_render]

theorem FunctionObject.annotation_deployment (f : FunctionObject) (owner : OwnerReference)
    (secrets : Secrets) (policy : PullPolicy) :
    (f.deployment owner secrets policy).metadata.annotation? specAnnotation =
      some f.spec.render := by
  rw [f.metadata_deployment]
  exact f.spec.get?_workloadAnnotations

theorem needsUpdate_deployment (s : FunctionSpec) (f : FunctionObject) (owner : OwnerReference)
    (secrets : Secrets) (policy : PullPolicy) :
    needsUpdate s (f.deployment owner secrets policy) = !(changedFields f.spec s).isEmpty :=
  needsUpdate_of_declared (f.annotation_deployment owner secrets policy) s

theorem needsUpdate_eq_false_iff {s : FunctionSpec} {d : Deployment} :
    needsUpdate s d = false ↔
      ∃ text prior, d.metadata.annotation? specAnnotation = some text ∧
        FunctionSpec.parse text = .ok prior ∧ changedFields prior s = [] := by
  constructor
  · intro h
    unfold needsUpdate at h
    split at h
    · cases h
    · rename_i text htext
      split at h
      · cases h
      · rename_i prior hprior
        refine ⟨text, prior, htext, hprior, ?_⟩
        simpa using h
  · rintro ⟨text, prior, htext, hprior, hchanged⟩
    simp only [needsUpdate, htext, hprior, hchanged, List.isEmpty_nil, Bool.not_true]

/-- The annotation decides.  A rendered Deployment carries the declaration that it was made from,
whatever the user wrote under the same key, and needs an update exactly when some field has changed
since; any Deployment needs one unless it carries a declaration since which none has. -/
theorem needsUpdate_by_annotation (s : FunctionSpec) :
    (∀ (f : FunctionObject) (owner : OwnerReference) (secrets : Secrets) (policy : PullPolicy),
      (f.deployment owner secrets policy).metadata.annotation? specAnnotation =
        some f.spec.render ∧
      (needsUpdate s (f.deployment owner secrets policy) = true ↔ changedFields f.spec s ≠ [])) ∧
    ∀ d : Deployment, needsUpdate s d = false ↔
      ∃ text prior, d.metadata.annotation? specAnnotation = some text ∧
        FunctionSpec.parse text = .ok prior ∧ changedFields prior s = [] := by
  refine ⟨fun f owner secrets policy => ⟨?_, ?_⟩, fun d => needsUpdate_eq_false_iff⟩
  · exact f.annotation_deployment owner secrets policy
  · rw [needsUpdate_deployment]
    simp

end FaasOperator
