/-
# `FaasOperator.Proofs.Workload.Alike` — what compares as unchanged is rendered alike

## What is proved

Let two functions have the same metadata, and nothing have changed between their declarations; or
let the Deployment of the one need no update by the declaration of the other.  Then their
Deployments are the same but for the text of the declaration in the annotations, and for the order
of the projected Secrets and of the pull secrets (`deployment_alike_of_unchanged`,
`Deployment.Alike`).

## How

The comparison of declarations and the rendering treat what is absent, empty, repeated or out of
order each in its own way.  The first part shows for one field after the other that what is equal to
the comparison is equal to the rendering; the second part says what it is for two Deployments to be
alike and puts the fields together.
-/
import Mathlib.Data.List.Forall2
import FaasOperator.Proofs.Workload.Change
import FaasOperator.Proofs.Workload.Projections

namespace FaasOperator

/-! ## Fields that compare equal render equal -/

theorem getD_empty_of_nonEmptyMap? {m n : Option (StringMap String)}
    (h : nonEmptyMap? m = nonEmptyMap? n) : m.getD ∅ = n.getD ∅ := by
  have key (m : Option (StringMap String)) : (nonEmptyMap? m).getD ∅ = m.getD ∅ := by
    cases m with
    | none => rfl
    | some m =>
        by_cases he : m.isEmpty = true
        · rw [StringMap.eq_empty_of_isEmpty he]
          rfl
        · simp [nonEmptyMap?, Option.filter, he]
  rw [← key m, ← key n, h]

/-- An amount without text adds nothing, just like no amount. -/
theorem addQuantity_nonEmptyText? (list : StringMap Quantity) (resource : String)
    (amount : Option String) :
    addQuantity list resource (nonEmptyText? amount) = addQuantity list resource amount := by
  cases amount with
  | none => rfl
  | some a =>
      by_cases ha : a.isEmpty = true
      · simp [nonEmptyText?, Option.filter, addQuantity, ha]
      · simp [nonEmptyText?, Option.filter, addQuantity, ha]

theorem quantityList_eq (r : Option FunctionResources) :
    quantityList r = (FunctionResources.quantities
      ⟨(statedResources r).1, (statedResources r).2⟩).map
        fun list => if list.isEmpty then none else some list := by
  cases r with
  | none => rfl
  | some r =>
      simp only [quantityList, statedResources, FunctionResources.quantities,
        addQuantity_nonEmptyText?]

theorem quantityList_congr {a b : Option FunctionResources}
    (h : statedResources a = statedResources b) : quantityList a = quantityList b := by
  rw [quantityList_eq, quantityList_eq, h]

/-- Declarations of the same set of Secrets name them in another order at most. -/
theorem FunctionSpec.declaredSecrets_perm {s t : FunctionSpec}
    (h : textSet s.secrets = textSet t.secrets) (secrets : Secrets) :
    (s.declaredSecrets secrets).Perm (t.declaredSecrets secrets) := by
  apply List.Perm.filterMap
  unfold FunctionSpec.secretNames
  have hs := eachOnce_eraseDups (s.secrets.getD [])
  have ht := eachOnce_eraseDups (t.secrets.getD [])
  rw [List.perm_ext_iff_of_nodup hs.nodup ht.nodup]
  intro name
  rw [hs.mem_iff, ht.mem_iff]
  exact textSet_eq_iff.mp h name

namespace FunctionSpec.Unchanged

variable {s t : FunctionSpec}

theorem containerResources (h : s.Unchanged t) : s.containerResources = t.containerResources := by
  simp only [FunctionSpec.containerResources, resourceRequirements, quantityList_congr h.limits,
    quantityList_congr h.requests]

theorem containerEnv (h : s.Unchanged t) : s.containerEnv = t.containerEnv := by
  simp only [FunctionSpec.containerEnv, h.handler, getD_empty_of_nonEmptyMap? h.environment]

/-- The annotations have the same keys, and the same values but for the declaration's. -/
theorem workloadAnnotations (h : s.Unchanged t) {k : String} (hk : k ≠ specAnnotation) :
    s.workloadAnnotations.get? k = t.workloadAnnotations.get? k := by
  simp only [FunctionSpec.workloadAnnotations, StringMap.get?_insert_of_ne _ hk,
    getD_empty_of_nonEmptyMap? h.annotations]

end FunctionSpec.Unchanged

/-! ## Alike Deployments -/

/-- The same metadata but for the value of the declaration's annotation. -/
structure ObjectMeta.Alike (m n : ObjectMeta) : Prop where
  annotations : Option.Rel
    (fun a b => a.contains specAnnotation = b.contains specAnnotation ∧
      ∀ k, k ≠ specAnnotation → a.get? k = b.get? k)
    m.annotations n.annotations
  others : { m with annotations := none } = { n with annotations := none }

/-- The same volume but for the order of its sources. -/
structure Volume.Alike (v w : Volume) : Prop where
  sources : Option.Rel
    (fun a b => Option.Rel List.Perm a.sources b.sources ∧ a.other = b.other)
    v.projected w.projected
  others : { v with projected := none } = { w with projected := none }

/-- The same pod but for the order of the Secrets. -/
structure PodSpec.Alike (p q : PodSpec) : Prop where
  volumes : Option.Rel (List.Forall₂ Volume.Alike) p.volumes q.volumes
  imagePullSecrets : Option.Rel List.Perm p.imagePullSecrets q.imagePullSecrets
  others : { p with volumes := none, imagePullSecrets := none } =
    { q with volumes := none, imagePullSecrets := none }

/-- The same pods but for the value of the declaration's annotation and the order of the Secrets. -/
structure PodTemplate.Alike (a b : PodTemplate) : Prop where
  metadata : Option.Rel ObjectMeta.Alike a.metadata b.metadata
  spec : Option.Rel PodSpec.Alike a.spec b.spec

/-- The same Deployment but for the value of the declaration's annotation, on the Deployment and on
its pods, and for the order of the projected Secrets and of the pull secrets. -/
structure Deployment.Alike (d e : Deployment) : Prop where
  metadata : d.metadata.Alike e.metadata
  spec : Option.Rel
    (fun a b => a.template.Alike b.template ∧
      { a with template := ⟨none, none⟩ } = { b with template := ⟨none, none⟩ })
    d.spec e.spec
  status : d.status = e.status

theorem optionRel_refl {α : Type} {r : α → α → Prop} (h : ∀ a, r a a) (o : Option α) :
    Option.Rel r o o := by
  cases o with
  | none => exact .none
  | some a => exact .some (h a)

theorem Volume.Alike.refl (v : Volume) : v.Alike v :=
  ⟨optionRel_refl (fun a => ⟨optionRel_refl List.Perm.refl a.sources, rfl⟩) v.projected, rfl⟩

theorem forall₂_alike_refl (vs : List Volume) : List.Forall₂ Volume.Alike vs vs := by
  induction vs with
  | nil => exact .nil
  | cons v vs ih => exact .cons (.refl v) ih

theorem PodSpec.Alike.refl (p : PodSpec) : p.Alike p :=
  ⟨optionRel_refl forall₂_alike_refl p.volumes, optionRel_refl List.Perm.refl p.imagePullSecrets,
    rfl⟩

/-! ## Secrets in another order -/

theorem nonEmpty?_rel {α : Type} {xs ys : List α} (h : xs.Perm ys) :
    Option.Rel List.Perm (nonEmpty? xs) (nonEmpty? ys) := by
  unfold nonEmpty?
  rw [h.isEmpty_eq]
  split
  · exact .none
  · exact .some h

theorem append_rel {v w : Volume} (h : v.Alike w) (vs : Option (List Volume)) :
    Option.Rel (List.Forall₂ Volume.Alike) (append v vs) (append w vs) := by
  refine .some ?_
  induction vs.getD [] with
  | nil => exact .cons h .nil
  | cons u us ih => exact .cons (.refl u) ih

theorem PodSpec.alike_updateSecrets {s t : FunctionSpec} {secrets : Secrets}
    (hname : s.name = t.name)
    (hperm : (s.declaredSecrets secrets).Perm (t.declaredSecrets secrets)) (p : PodSpec) :
    (p.updateSecrets s secrets).Alike (p.updateSecrets t secrets) := by
  have hsources : (projectionSources (s.declaredSecrets secrets)).Perm
      (projectionSources (t.declaredSecrets secrets)) :=
    (hperm.filter _).map _
  have hpulls : (pullSecrets (s.declaredSecrets secrets)).Perm
      (pullSecrets (t.declaredSecrets secrets)) :=
    (hperm.filter _).map _
  have hvolume : s.secretsVolumeName = t.secretsVolumeName := by
    rw [FunctionSpec.secretsVolumeName, FunctionSpec.secretsVolumeName, hname]
  unfold PodSpec.updateSecrets PodSpec.withFirstContainer
  cases hc : p.containers with
  | nil => exact .refl p
  | cons c cs =>
      simp only [hvolume, hsources.isEmpty_eq]
      refine ⟨?_, nonEmpty?_rel hpulls, rfl⟩
      split
      · exact optionRel_refl forall₂_alike_refl _
      · refine append_rel ?_ _
        exact ⟨.some ⟨.some hsources, rfl⟩, rfl⟩

/-! ## The whole Deployment -/

theorem FunctionObject.alike_ownedMeta {f g : FunctionObject} (hm : f.metadata = g.metadata)
    (h : f.spec.Unchanged g.spec) (owner : OwnerReference) :
    (f.ownedMeta owner f.spec.workloadAnnotations).Alike
      (g.ownedMeta owner g.spec.workloadAnnotations) where
  annotations := by
    refine .some ⟨?_, fun k hk => h.workloadAnnotations hk⟩
    rw [StringMap.contains, StringMap.contains, FunctionSpec.get?_workloadAnnotations,
      FunctionSpec.get?_workloadAnnotations]
    rfl
  others := by
    simp only [FunctionObject.ownedMeta, h.name, hm]

theorem FunctionObject.podLabels_congr {f g : FunctionObject} (hm : f.metadata = g.metadata)
    (h : f.spec.Unchanged g.spec) : f.podLabels = g.podLabels := by
  simp only [FunctionObject.podLabels, h.name, hm, getD_empty_of_nonEmptyMap? h.labels]

theorem FunctionObject.pod_congr {f g : FunctionObject} (h : f.spec.Unchanged g.spec)
    (policy : PullPolicy) : f.pod policy = g.pod policy := by
  simp only [FunctionObject.pod, FunctionObject.container, h.name, h.image, h.constraints,
    h.containerEnv, h.containerResources]

theorem FunctionObject.alike_deployment {f g : FunctionObject} (hm : f.metadata = g.metadata)
    (h : f.spec.Unchanged g.spec) (owner : OwnerReference) (secrets : Secrets)
    (policy : PullPolicy) :
    (f.deployment owner secrets policy).Alike (g.deployment owner secrets policy) where
  metadata := by
    rw [f.metadata_deployment, g.metadata_deployment]
    exact alike_ownedMeta hm h owner
  spec := by
    have hpod : ((f.pod policy).configureReadOnly f.spec.readOnlyRootFilesystem) =
        (g.pod policy).configureReadOnly g.spec.readOnlyRootFilesystem := by
      rw [pod_congr h policy, h.readOnlyRootFilesystem]
    have hsecrets := PodSpec.alike_updateSecrets h.name
      (FunctionSpec.declaredSecrets_perm h.secrets secrets)
      ((f.pod policy).configureReadOnly f.spec.readOnlyRootFilesystem)
    refine .some ⟨⟨.some ⟨?_, ?_⟩, .some ?_⟩, ?_⟩
    · exact (alike_ownedMeta hm h owner).annotations
    · simp only [podLabels_congr hm h]
    · exact hpod ▸ hsecrets
    · simp only [selectorLabels, h.name, h.replicas, hm]
  status := rfl

/-- What compares as unchanged is rendered alike; so a Deployment that needs no update is, up to the
text of the declaration and the order of the Secrets, what would be rendered now. -/
theorem deployment_alike_of_unchanged {f g : FunctionObject} (hm : f.metadata = g.metadata)
    (owner : OwnerReference) (secrets : Secrets) (policy : PullPolicy) :
    (changedFields f.spec g.spec = [] →
      (f.deployment owner secrets policy).Alike (g.deployment owner secrets policy)) ∧
    (needsUpdate g.spec (f.deployment owner secrets policy) = false →
      (f.deployment owner secrets policy).Alike (g.deployment owner secrets policy)) := by
  have hchanged : changedFields f.spec g.spec = [] →
      (f.deployment owner secrets policy).Alike (g.deployment owner secrets policy) := fun h =>
    FunctionObject.alike_deployment hm (changedFields_eq_nil_iff.mp h) owner secrets policy
  refine ⟨hchanged, fun h => hchanged ?_⟩
  rw [needsUpdate_deployment] at h
  simpa using h

/-- A function with Secrets of both kinds, one amount left blank, and two constraints. -/
def orderedFunction : FunctionObject :=
  ⟨{ ObjectMeta.empty with name := some "echo", ns := some "openfaas-fn", uid := some "8f3c5e1a" },
    { FunctionSpec.empty with
      name := "echo"
      constraints := some ["zone=a", "disk=ssd"]
      secrets := some ["db", "hub", "keys"]
      limits := some ⟨some "", none⟩ },
    none⟩

/-- The same function declared in another order, with a repetition, a constraint that is none, and
an empty map. -/
def reorderedFunction : FunctionObject :=
  { orderedFunction with
    spec := { FunctionSpec.empty with
      name := "echo"
      labels := some ∅
      constraints := some ["disk=ssd", "gpu", "zone=a"]
      secrets := some ["keys", "db", "keys", "hub"] } }

def mixedSecrets : Secrets :=
  .ofList [
    ("db", ⟨.empty, none, some (.ofList [("password", [])]), ∅⟩),
    ("hub", ⟨.empty, some "kubernetes.io/dockerconfigjson", none, ∅⟩),
    ("keys", ⟨.empty, some "Opaque", some (.ofList [("public", []), ("private", [])]), ∅⟩)]

def orderedOwner : OwnerReference :=
  ⟨FunctionObject.apiVersion, FunctionObject.kind, "echo", "8f3c5e1a", some true, some true⟩

theorem deployment_alike_reordered :
    changedFields orderedFunction.spec reorderedFunction.spec = [] ∧
    needsUpdate reorderedFunction.spec
      (orderedFunction.deployment orderedOwner mixedSecrets .always) = false ∧
    (orderedFunction.deployment orderedOwner mixedSecrets .always).Alike
      (reorderedFunction.deployment orderedOwner mixedSecrets .always) := by
  have hchanged : changedFields orderedFunction.spec reorderedFunction.spec = [] := by decide
  have hupdate : needsUpdate reorderedFunction.spec
      (orderedFunction.deployment orderedOwner mixedSecrets .always) = false := by
    rw [needsUpdate_deployment, hchanged]
    rfl
  have halike := deployment_alike_of_unchanged (f := orderedFunction) (g := reorderedFunction) rfl
    orderedOwner mixedSecrets .always
  exact ⟨hchanged, hupdate, halike.1 hchanged⟩

end FaasOperator
