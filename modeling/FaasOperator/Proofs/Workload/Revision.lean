/-
# `FaasOperator.Proofs.Workload.Revision` — revising a Deployment comes to rendering it anew

## What is proved

Take a rendered Deployment and any sequence of the two passes, for functions of the same declared
name (`revised_as_rendered`).  It comes to what rendering from scratch makes of the last flag and
the last Secrets, and where there was none, of those that the Deployment was rendered with; up to
the order of volumes and mounts and the text of the declaration (`Deployment.Rearranged`).  And
neither pass touches what goes by the name of the other, on any Deployment.

## How

The two passes go by different names in the same lists, so each absorbs its own earlier runs and
passes by the other, up to the order of the lists.
-/
import FaasOperator.Proofs.Workload.Alike
import FaasOperator.Proofs.Workload.ReadOnly

namespace FaasOperator

/-! ## Two names in one list -/

section Refit

variable {α : Type} {nameOf : α → String} {name name' : String} {new new' : List α}
  {xs ys : Option (List α)}

theorem refit_perm (h : Option.Rel List.Perm xs ys) :
    Option.Rel List.Perm (refit nameOf name new xs) (refit nameOf name new ys) := by
  have hlists : (xs.getD []).Perm (ys.getD []) := by
    cases h with
    | none => exact .nil
    | some h => exact h
  exact nonEmpty?_rel ((hlists.filter _).append_right new)

theorem refit_comm (h : ∀ x ∈ new, nameOf x = name) (h' : ∀ x ∈ new', nameOf x = name')
    (hne : name ≠ name') :
    Option.Rel List.Perm (refit nameOf name' new' (refit nameOf name new xs))
      (refit nameOf name new (refit nameOf name' new' xs)) := by
  apply nonEmpty?_rel
  rw [getD_refit, getD_refit, List.filter_append, List.filter_append, filter_unnamed_of_ne h hne,
    filter_unnamed_of_ne h' hne.symm, List.filter_filter, List.filter_filter, List.append_assoc,
    List.append_assoc]
  simp only [Bool.and_comm]
  exact List.perm_append_comm.append_left _

theorem filter_refit_of_ne (h : ∀ x ∈ new, nameOf x = name) (hne : name ≠ name') :
    ((refit nameOf name new xs).getD []).filter (fun x => nameOf x == name') =
      (xs.getD []).filter fun x => nameOf x == name' := by
  have hnew : new.filter (fun x => nameOf x == name') = [] := by
    rw [List.filter_eq_nil_iff]
    intro x hx
    simpa [h x hx] using hne
  rw [getD_refit, List.filter_append, hnew, List.append_nil, List.filter_filter]
  apply List.filter_congr
  intro x _
  by_cases hx : nameOf x = name'
  · simp [hx, hne.symm]
  · simp [hx]

end Refit

/-! ## Pods up to the order of volumes and mounts -/

/-- The same container but for the order of its mounts. -/
structure Container.Rearranged (c c' : Container) : Prop where
  volumeMounts : Option.Rel List.Perm c.volumeMounts c'.volumeMounts
  others : { c with volumeMounts := none } = { c' with volumeMounts := none }

/-- The same pod but for the order of its volumes and of the mounts of each container. -/
structure PodSpec.Rearranged (p p' : PodSpec) : Prop where
  volumes : Option.Rel List.Perm p.volumes p'.volumes
  containers : List.Forall₂ Container.Rearranged p.containers p'.containers
  others : { p with volumes := none, containers := [] } =
    { p' with volumes := none, containers := [] }

theorem optionRel_trans {α : Type} {r : α → α → Prop} (h : ∀ a b c, r a b → r b c → r a c)
    {x y z : Option α} (hxy : Option.Rel r x y) (hyz : Option.Rel r y z) : Option.Rel r x z := by
  cases hxy with
  | none => exact hyz
  | some hab =>
      cases hyz with
      | some hbc => exact .some (h _ _ _ hab hbc)

theorem forall₂_trans {α : Type} {r : α → α → Prop} (h : ∀ a b c, r a b → r b c → r a c)
    {xs ys zs : List α} (hxy : List.Forall₂ r xs ys) (hyz : List.Forall₂ r ys zs) :
    List.Forall₂ r xs zs := by
  induction hxy generalizing zs with
  | nil => exact hyz
  | cons hab _ ih =>
      cases hyz with
      | cons hbc hrest => exact .cons (h _ _ _ hab hbc) (ih hrest)

theorem Container.Rearranged.refl (c : Container) : c.Rearranged c :=
  ⟨optionRel_refl List.Perm.refl c.volumeMounts, rfl⟩

theorem Container.Rearranged.trans {c c' c'' : Container} (h : c.Rearranged c')
    (h' : c'.Rearranged c'') : c.Rearranged c'' :=
  ⟨optionRel_trans (fun _ _ _ => .trans) h.volumeMounts h'.volumeMounts, h.others.trans h'.others⟩

theorem forall₂_rearranged_refl (cs : List Container) :
    List.Forall₂ Container.Rearranged cs cs :=
  List.forall₂_same.mpr fun c _ => .refl c

namespace PodSpec.Rearranged

variable {p p' p'' : PodSpec}

theorem refl (p : PodSpec) : p.Rearranged p :=
  ⟨optionRel_refl List.Perm.refl p.volumes, forall₂_rearranged_refl p.containers, rfl⟩

theorem trans (h : p.Rearranged p') (h' : p'.Rearranged p'') : p.Rearranged p'' :=
  ⟨optionRel_trans (fun _ _ _ => .trans) h.volumes h'.volumes,
    forall₂_trans (fun _ _ _ => .trans) h.containers h'.containers, h.others.trans h'.others⟩

/-- The passes do not look at the order. -/
theorem configureReadOnly (h : p.Rearranged p') (readOnly : Bool) :
    (p.configureReadOnly readOnly).Rearranged (p'.configureReadOnly readOnly) := by
  have hcontainers := h.containers
  generalize hp : p.containers = cs at hcontainers
  generalize hp' : p'.containers = cs' at hcontainers
  cases hcontainers with
  | nil =>
      rw [configureReadOnly_nil hp, configureReadOnly_nil hp']
      exact h
  | cons hc hcs =>
      rw [configureReadOnly_cons hp, configureReadOnly_cons hp']
      refine ⟨refit_perm h.volumes, .cons ⟨refit_perm hc.volumeMounts, ?_⟩ hcs, h.others⟩
      exact congrArg (Container.setReadOnly readOnly) hc.others

theorem updateSecrets (h : p.Rearranged p') (s : FunctionSpec) (secrets : Secrets) :
    (p.updateSecrets s secrets).Rearranged (p'.updateSecrets s secrets) := by
  have hcontainers := h.containers
  generalize hp : p.containers = cs at hcontainers
  generalize hp' : p'.containers = cs' at hcontainers
  cases hcontainers with
  | nil =>
      rw [updateSecrets_nil hp, updateSecrets_nil hp']
      exact h
  | cons hc hcs =>
      rw [updateSecrets_cons hp, updateSecrets_cons hp']
      refine ⟨refit_perm h.volumes, .cons ⟨refit_perm hc.volumeMounts, hc.others⟩ hcs, ?_⟩
      exact congrArg (fun q : PodSpec =>
        { q with imagePullSecrets := nonEmpty? (pullSecrets (s.declaredSecrets secrets)) }) h.others

end PodSpec.Rearranged

/-! ## Each pass by the other -/

namespace PodSpec

/-- The declared names and the function's are all that the Secrets are put in place by. -/
theorem updateSecrets_congr {s t : FunctionSpec} (hname : s.name = t.name)
    (hsecrets : s.secrets = t.secrets) (secrets : Secrets) (p : PodSpec) :
    p.updateSecrets s secrets = p.updateSecrets t secrets := by
  have hvolume : s.secretsVolumeName = t.secretsVolumeName := by
    rw [FunctionSpec.secretsVolumeName, FunctionSpec.secretsVolumeName, hname]
  have hdeclared : s.declaredSecrets secrets = t.declaredSecrets secrets := by
    rw [FunctionSpec.declaredSecrets, FunctionSpec.declaredSecrets, FunctionSpec.secretNames,
      FunctionSpec.secretNames, hsecrets]
  simp only [updateSecrets, hvolume, hdeclared]

theorem updateSecrets_updateSecrets {s t : FunctionSpec} (hname : s.name = t.name)
    (first second : Secrets) (p : PodSpec) :
    (p.updateSecrets s first).updateSecrets t second = p.updateSecrets t second := by
  cases h : p.containers with
  | nil => rw [updateSecrets_nil h]
  | cons c cs =>
      have hfitting : (s.secretsFitting first).name = (t.secretsFitting second).name := by
        show s.name ++ "-projected-secrets" = t.name ++ "-projected-secrets"
        rw [hname]
      have hvolumes := Fitting.ontoVolumes_ontoVolumes hfitting p.volumes
      have hmounts := Fitting.ontoMounts_ontoMounts hfitting c.volumeMounts
      rw [updateSecrets_cons h, updateSecrets_cons rfl, updateSecrets_cons h, ← hvolumes, ← hmounts]

theorem configureReadOnly_updateSecrets (s : FunctionSpec) (secrets : Secrets) (readOnly : Bool)
    (p : PodSpec) :
    ((p.updateSecrets s secrets).configureReadOnly readOnly).Rearranged
      ((p.configureReadOnly readOnly).updateSecrets s secrets) := by
  cases h : p.containers with
  | nil =>
      rw [updateSecrets_nil h, updateSecrets_nil (by rw [configureReadOnly_nil h, h])]
      exact .refl _
  | cons c cs =>
      have hne := s.secretsVolumeName_ne
      rw [updateSecrets_cons h, configureReadOnly_cons rfl, configureReadOnly_cons h,
        updateSecrets_cons rfl]
      refine ⟨?_, .cons ⟨?_, rfl⟩ (forall₂_rearranged_refl cs), rfl⟩
      · exact refit_comm (s.secretsFitting secrets).name_of_mem_volumes
          (tempFitting readOnly).name_of_mem_volumes hne
      · exact refit_comm (s.secretsFitting secrets).name_of_mem_mounts
          (tempFitting readOnly).name_of_mem_mounts hne

end PodSpec

/-! ## Neither pass disturbs the other -/

namespace Deployment

def volumesNamed (name : String) (d : Deployment) : List Volume :=
  ((d.pod?.bind (·.volumes)).getD []).filter fun v => v.name == name

def mountsNamed (name : String) (d : Deployment) : List VolumeMount :=
  ((d.pod?.bind (·.containers.head?)).bind (·.volumeMounts)).getD [] |>.filter fun m =>
    m.name == name

/-- The volumes and mounts of the name are as before. -/
def KeepsNamed (name : String) (d d' : Deployment) : Prop :=
  d'.volumesNamed name = d.volumesNamed name ∧ d'.mountsNamed name = d.mountsNamed name

theorem keepsNamed_mapPod {name : String} {d : Deployment} {g : PodSpec → PodSpec} (x : Fitting)
    (hne : x.name ≠ name) (hnil : ∀ p, p.containers = [] → g p = p)
    (hcons : ∀ p c cs, p.containers = c :: cs → (g p).volumes = x.ontoVolumes p.volumes ∧
      ∃ c', (g p).containers = c' :: cs ∧ c'.volumeMounts = x.ontoMounts c.volumeMounts) :
    d.KeepsNamed name (d.mapPod g) := by
  unfold KeepsNamed volumesNamed mountsNamed
  rw [pod?_mapPod]
  cases hp : d.pod? with
  | none => exact ⟨rfl, rfl⟩
  | some p =>
      cases hc : p.containers with
      | nil =>
          rw [Option.map_some, hnil p hc]
          exact ⟨rfl, rfl⟩
      | cons c cs =>
          obtain ⟨hvolumes, c', hcontainers, hmounts⟩ := hcons p c cs hc
          simp only [Option.map_some, Option.bind_some, hvolumes, hcontainers, hc, List.head?_cons,
            hmounts]
          exact ⟨filter_refit_of_ne x.name_of_mem_volumes hne,
            filter_refit_of_ne x.name_of_mem_mounts hne⟩

theorem keepsNamed_configureReadOnly (d : Deployment) (readOnly : Bool) (s : FunctionSpec) :
    d.KeepsNamed s.secretsVolumeName (d.configureReadOnly readOnly) := by
  refine keepsNamed_mapPod (tempFitting readOnly) s.secretsVolumeName_ne.symm
    (fun p h => PodSpec.configureReadOnly_nil h readOnly) fun p c cs h => ?_
  rw [PodSpec.configureReadOnly_cons h]
  exact ⟨rfl, _, rfl, rfl⟩

theorem keepsNamed_updateSecrets (d : Deployment) (s : FunctionSpec) (secrets : Secrets) :
    d.KeepsNamed tempVolumeName (d.updateSecrets s secrets) := by
  refine keepsNamed_mapPod (s.secretsFitting secrets) s.secretsVolumeName_ne
    (fun p h => PodSpec.updateSecrets_nil h s secrets) fun p c cs h => ?_
  rw [PodSpec.updateSecrets_cons h]
  exact ⟨rfl, _, rfl, rfl⟩

end Deployment

/-! ## Sequences of passes -/

/-- One of the passes, for some function. -/
inductive Revision where
  | readOnly (f : FunctionObject)
  | secrets (f : FunctionObject) (resolved : Secrets)

namespace Revision

def function : Revision → FunctionObject
  | .readOnly f | .secrets f _ => f

def onPod : Revision → PodSpec → PodSpec
  | .readOnly f => PodSpec.configureReadOnly f.spec.readOnlyRootFilesystem
  | .secrets f resolved => PodSpec.updateSecrets f.spec resolved

def apply : Revision → Deployment → Deployment
  | .readOnly f => Deployment.configureReadOnly f.spec.readOnlyRootFilesystem
  | .secrets f resolved => Deployment.updateSecrets f.spec resolved

def flag? : Revision → Option Bool
  | .readOnly f => some f.spec.readOnlyRootFilesystem
  | .secrets _ _ => none

/-- The Secrets that the pass puts in place: those declared, and those that are there. -/
def secrets? : Revision → Option (Option (List String) × Secrets)
  | .readOnly _ => none
  | .secrets f resolved => some (f.spec.secrets, resolved)

theorem apply_eq (r : Revision) (d : Deployment) : r.apply d = d.mapPod r.onPod := by
  cases r with
  | readOnly f => rfl
  | secrets f resolved => rfl

theorem foldl_apply (rs : List Revision) (g : PodSpec → PodSpec) (d : Deployment) :
    rs.foldl (fun d r => r.apply d) (d.mapPod g) =
      d.mapPod fun p => rs.foldl (fun p r => r.onPod p) (g p) := by
  induction rs generalizing g with
  | nil => rfl
  | cons r rs ih =>
      rw [List.foldl_cons, apply_eq, Deployment.mapPod_mapPod]
      exact ih _

end Revision

/-- The function with another flag and other Secrets. -/
def FunctionObject.revised (f : FunctionObject) (readOnly : Bool)
    (declared : Option (List String)) : FunctionObject :=
  { f with spec := { f.spec with readOnlyRootFilesystem := readOnly, secrets := declared } }

/-- The pod with this flag and these Secrets. -/
def FunctionObject.fitOut (f : FunctionObject) (readOnly : Bool)
    (secrets : Option (List String) × Secrets) (p : PodSpec) : PodSpec :=
  (p.configureReadOnly readOnly).updateSecrets (f.revised readOnly secrets.1).spec secrets.2

/-- From a pod that is as after one pass of each kind, every sequence of passes for functions of the
same declared name leads to a pod that is as after the last passes of each kind. -/
theorem FunctionObject.rearranged_foldl (f : FunctionObject) {rs : List Revision}
    (hnames : ∀ r ∈ rs, r.function.spec.name = f.spec.name) {readOnly : Bool}
    {secrets : Option (List String) × Secrets} {p q : PodSpec}
    (h : q.Rearranged (f.fitOut readOnly secrets p)) :
    (rs.foldl (fun p r => r.onPod p) q).Rearranged
      (f.fitOut ((rs.filterMap Revision.flag?).getLastD readOnly)
        ((rs.filterMap Revision.secrets?).getLastD secrets) p) := by
  induction rs generalizing q readOnly secrets with
  | nil => exact h
  | cons r rs ih =>
      have hrest : ∀ r ∈ rs, r.function.spec.name = f.spec.name := fun r hr =>
        hnames r (List.mem_cons_of_mem _ hr)
      have hname : r.function.spec.name = f.spec.name := hnames r List.mem_cons_self
      rw [List.foldl_cons]
      cases r with
      | readOnly g =>
          simp only [List.filterMap_cons, Revision.flag?, Revision.secrets?, List.getLastD_cons]
          apply ih hrest
          -- the flag passes by the Secrets and absorbs the one before it
          refine (h.configureReadOnly g.spec.readOnlyRootFilesystem).trans ?_
          refine (PodSpec.configureReadOnly_updateSecrets _ _ _ _).trans ?_
          rw [PodSpec.configureReadOnly_configureReadOnly]
          exact .refl _
      | secrets g resolved =>
          simp only [List.filterMap_cons, Revision.flag?, Revision.secrets?, List.getLastD_cons]
          apply ih hrest
          -- the Secrets absorb those before them
          refine (h.updateSecrets g.spec resolved).trans ?_
          have hsame : g.spec.name = (f.revised readOnly g.spec.secrets).spec.name := hname
          have habsorb := PodSpec.updateSecrets_updateSecrets
            (s := (f.revised readOnly secrets.1).spec) hsame.symm secrets.2 resolved
            (p.configureReadOnly readOnly)
          rw [FunctionObject.fitOut, habsorb, PodSpec.updateSecrets_congr hsame rfl]
          exact .refl _

/-! ## Rendering from scratch -/

/-- The same specification but for the value of the declaration's annotation on the pods, and for the
order of their volumes and mounts. -/
structure DeploymentSpec.Rearranged (s s' : DeploymentSpec) : Prop where
  metadata : Option.Rel ObjectMeta.Alike s.template.metadata s'.template.metadata
  pod : Option.Rel PodSpec.Rearranged s.template.spec s'.template.spec
  others : { s with template := ⟨none, none⟩ } = { s' with template := ⟨none, none⟩ }

/-- The same Deployment but for the value of the declaration's annotation, on the Deployment and on
its pods, and for the order of volumes and mounts. -/
structure Deployment.Rearranged (d d' : Deployment) : Prop where
  metadata : d.metadata.Alike d'.metadata
  spec : Option.Rel DeploymentSpec.Rearranged d.spec d'.spec
  status : d.status = d'.status

/-- But for the declaration itself, the annotations depend on the user's own alone. -/
theorem FunctionSpec.alike_workloadAnnotations {s t : FunctionSpec}
    (h : s.annotations = t.annotations) (m : ObjectMeta) :
    ({ m with annotations := some s.workloadAnnotations } : ObjectMeta).Alike
      { m with annotations := some t.workloadAnnotations } where
  annotations := by
    refine .some ⟨?_, fun k hk => ?_⟩
    · rw [StringMap.contains, StringMap.contains, FunctionSpec.get?_workloadAnnotations,
        FunctionSpec.get?_workloadAnnotations]
      rfl
    · simp only [FunctionSpec.workloadAnnotations, StringMap.get?_insert_of_ne _ hk, h]
  others := rfl

theorem FunctionObject.deployment_eq_mapPod (f : FunctionObject) (owner : OwnerReference)
    (secrets : Secrets) (policy : PullPolicy) :
    f.deployment owner secrets policy = (f.bareDeployment owner policy).mapPod
      (f.fitOut f.spec.readOnlyRootFilesystem (f.spec.secrets, secrets)) := by
  rw [FunctionObject.deployment, Deployment.configureReadOnly, Deployment.updateSecrets,
    Deployment.mapPod_mapPod]
  rfl

/-- A rendered Deployment that is revised any number of times, for functions of the same declared
name, comes to what is rendered from scratch with the last flag and the last Secrets; where there was
none, with those that it was rendered with.  And whatever the function is called and whatever the
Deployment, no pass touches what goes by the name of the other. -/
theorem revised_as_rendered (f : FunctionObject) (owner : OwnerReference) (secrets : Secrets)
    (policy : PullPolicy) {rs : List Revision}
    (hnames : ∀ r ∈ rs, r.function.spec.name = f.spec.name) :
    (let readOnly := (rs.filterMap Revision.flag?).getLastD f.spec.readOnlyRootFilesystem
      let last := (rs.filterMap Revision.secrets?).getLastD (f.spec.secrets, secrets)
      (rs.foldl (fun d r => r.apply d) (f.deployment owner secrets policy)).Rearranged
        ((f.revised readOnly last.1).deployment owner last.2 policy)) ∧
    ∀ (d : Deployment) (s : FunctionSpec) (readOnly : Bool) (resolved : Secrets),
      d.KeepsNamed s.secretsVolumeName (d.configureReadOnly readOnly) ∧
      d.KeepsNamed tempVolumeName (d.updateSecrets s resolved) := by
  refine ⟨?_, fun d s readOnly resolved =>
    ⟨d.keepsNamed_configureReadOnly readOnly s, d.keepsNamed_updateSecrets s resolved⟩⟩
  intro readOnly last
  rw [f.deployment_eq_mapPod, FunctionObject.deployment_eq_mapPod, Revision.foldl_apply]
  have halike (m : ObjectMeta) := FunctionSpec.alike_workloadAnnotations (s := f.spec)
    (t := (f.revised readOnly last.1).spec) rfl m
  -- each side for itself: two Deployments that differ in their annotations are slow to compare
  have hstatus (g : FunctionObject) (x : PodSpec → PodSpec) :
      ((g.bareDeployment owner policy).mapPod x).status = none := rfl
  refine ⟨halike (f.ownedMeta owner ∅), .some ⟨.some ?_, .some ?_, rfl⟩,
    (hstatus _ _).trans (hstatus _ _).symm⟩
  · exact halike { ObjectMeta.empty with labels := some f.podLabels }
  · exact f.rearranged_foldl hnames (.refl _)

/-- Fewer Secrets for `orderedFunction`, between one flag and the other. -/
def orderedRevisions : List Revision := [
  .readOnly (orderedFunction.revised false none),
  .secrets (orderedFunction.revised false (some ["keys"])) mixedSecrets,
  .readOnly (orderedFunction.revised true none)]

theorem revised_as_rendered_ordered :
    (∀ r ∈ orderedRevisions, r.function.spec.name = orderedFunction.spec.name) ∧
    (orderedRevisions.foldl (fun d r => r.apply d)
      (orderedFunction.deployment orderedOwner mixedSecrets .always)).Rearranged
        ((orderedFunction.revised true (some ["keys"])).deployment orderedOwner mixedSecrets
          .always) := by
  have hnames : ∀ r ∈ orderedRevisions, r.function.spec.name = orderedFunction.spec.name := by
    simp [orderedRevisions, Revision.function, FunctionObject.revised]
  obtain ⟨hrearranged, -⟩ :=
    revised_as_rendered orderedFunction orderedOwner mixedSecrets .always hnames
  exact ⟨hnames, hrearranged⟩

end FaasOperator
