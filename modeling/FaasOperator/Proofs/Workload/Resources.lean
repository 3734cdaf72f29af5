/-
# `FaasOperator.Proofs.Workload.Resources` — the resources of the rendered container

## What is proved

Every amount that is declared and not empty has to be a quantity.  For every function
(`resources_all_or_nothing`):

* if one amount is none, the container has no resources at all;
* otherwise it has exactly the declared ones, without the white space at their ends, and what says
  nothing is absent;
* whether and how amounts are declared shows nowhere else on the Deployment but in the text of the
  declaration;
* every quantity on the Deployment is read as it stands.

## Which quantities there are

The quantities of a Deployment are those of its containers (`Deployment.quantities`).  Other places
for one, an overhead of the pod or the size of a volume, are empty on a rendered Deployment
(`FunctionObject.unlimited_of_pod?`).
-/
import FaasOperator.Proofs.Quantity
import FaasOperator.Proofs.Workload.Change
import FaasOperator.Proofs.Workload.Volumes

namespace FaasOperator

/-! ## Amounts -/

namespace Quantity

def trimmed (amount : String) : Quantity := ⟨String.ofList (Text.trim amount.toList)⟩

/-- The amount is a quantity with white space at its ends at most. -/
def Sound (amount : String) : Prop := WellFormed (Text.trim amount.toList)

variable {amount : String}

theorem parse_of_sound (h : Sound amount) : parse amount = .ok (trimmed amount) :=
  parse_eq_ok_iff.mpr ⟨h, rfl⟩

theorem parse_of_not_sound (h : ¬Sound amount) : ∃ e, parse amount = .error e := by
  cases hparse : parse amount with
  | error e => exact ⟨e, rfl⟩
  | ok q => exact absurd (parse_eq_ok_iff.mp hparse).1 h

theorem parse_trimmed (h : Sound amount) : parse (trimmed amount).text = .ok (trimmed amount) :=
  parse_text (parse_of_sound h)

end Quantity

/-- The record gives this amount of the resource, and not an empty one. -/
inductive FunctionResources.States (r : FunctionResources) : String → String → Prop
  | memory {amount : String} : r.memory = some amount → amount ≠ "" → States r "memory" amount
  | cpu {amount : String} : r.cpu = some amount → amount ≠ "" → States r "cpu" amount

theorem FunctionResources.states_iff {r : FunctionResources} {resource amount : String} :
    r.States resource amount ↔
      (resource = "memory" ∧ r.memory = some amount ∨ resource = "cpu" ∧ r.cpu = some amount) ∧
        amount ≠ "" := by
  constructor
  · intro h
    cases h with
    | memory hr hne => exact ⟨.inl ⟨rfl, hr⟩, hne⟩
    | cpu hr hne => exact ⟨.inr ⟨rfl, hr⟩, hne⟩
  · rintro ⟨⟨rfl, hr⟩ | ⟨rfl, hr⟩, hne⟩
    · exact .memory hr hne
    · exact .cpu hr hne

/-- There is a record, and it gives this amount of the resource. -/
def States (r : Option FunctionResources) (resource amount : String) : Prop :=
  ∃ r', r = some r' ∧ r'.States resource amount

/-- The list holds what is stated, and is absent if that is nothing. -/
structure Lists (r : Option FunctionResources) (list : Option (StringMap Quantity)) : Prop where
  get?_iff : ∀ resource q, list.bind (·.get? resource) = some q ↔
    ∃ amount, States r resource amount ∧ q = .trimmed amount
  absent_iff : list = none ↔ ∀ resource amount, ¬States r resource amount

namespace FunctionSpec

/-- Some amount is stated that is not a quantity. -/
def Faulty (s : FunctionSpec) : Prop :=
  ∃ resource amount, (States s.limits resource amount ∨ States s.requests resource amount) ∧
    ¬Quantity.Sound amount

/-- The resources are those that are declared, and nothing is said of others. -/
structure Requires (s : FunctionSpec) (resources : Option ResourceRequirements) : Prop where
  limits : Lists s.limits (resources.bind (·.limits))
  requests : Lists s.requests (resources.bind (·.requests))
  absent_iff : resources = none ↔
    resources.bind (·.limits) = none ∧ resources.bind (·.requests) = none
  others : ∀ r, resources = some r → r.other = ∅

end FunctionSpec

/-! ## Lists of quantities -/

section Lists

variable {list : StringMap Quantity} {resource : String} {amount : Option String}

/-- Either the amount is no quantity and refused, or the list holds it afterwards, if there is any.
-/
theorem addQuantity_cases (list : StringMap Quantity) (resource : String) (amount : Option String) :
    (∃ a e, amount = some a ∧ a ≠ "" ∧ ¬Quantity.Sound a ∧
      addQuantity list resource amount = .error e) ∨
    ∃ list', (∀ a, amount = some a → a ≠ "" → Quantity.Sound a) ∧
      addQuantity list resource amount = .ok list' ∧
      (∀ resource', resource' ≠ resource → list'.get? resource' = list.get? resource') ∧
      (list.get? resource = none → ∀ q, list'.get? resource = some q ↔
        ∃ a, amount = some a ∧ a ≠ "" ∧ q = .trimmed a) := by
  cases amount with
  | none =>
      refine .inr ⟨list, nofun, rfl, fun _ _ => rfl, fun hnew q => ?_⟩
      simp [hnew]
  | some a =>
      by_cases hempty : a = ""
      · subst hempty
        refine .inr ⟨list, ?_, rfl, fun _ _ => rfl, fun hnew q => ?_⟩
        · intro a ha hne
          exact absurd (Option.some.inj ha).symm hne
        · simp [hnew]
      · have hadd : addQuantity list resource (some a) =
            (Quantity.parse a).map (list.insert resource) := by
          simp [addQuantity, hempty]
        by_cases hsound : Quantity.Sound a
        · refine .inr ⟨list.insert resource (.trimmed a), ?_, ?_, ?_, fun _ q => ?_⟩
          · rintro a' heq -
            cases heq
            exact hsound
          · rw [hadd, Quantity.parse_of_sound hsound]
            rfl
          · intro resource' hne
            exact list.get?_insert_of_ne hne _
          · rw [StringMap.get?_insert_self]
            simp [hempty, eq_comm]
        · obtain ⟨e, he⟩ := Quantity.parse_of_not_sound hsound
          refine .inl ⟨a, e, rfl, hempty, hsound, ?_⟩
          rw [hadd, he]
          rfl

/-- A record is refused if some amount is no quantity, and otherwise listed as it is stated. -/
theorem quantities_cases (r : FunctionResources) :
    (∃ resource a e, r.States resource a ∧ ¬Quantity.Sound a ∧ r.quantities = .error e) ∨
    ∃ list, (∀ resource a, r.States resource a → Quantity.Sound a) ∧ r.quantities = .ok list ∧
      ∀ resource q, list.get? resource = some q ↔ ∃ a, r.States resource a ∧ q = .trimmed a := by
  have hne : "cpu" ≠ "memory" := by decide
  rcases addQuantity_cases ∅ "memory" r.memory with
    ⟨a, e, ha, hempty, hsound, hadd⟩ | ⟨list₁, hsound₁, hadd₁, hothers₁, hget₁⟩
  · refine .inl ⟨"memory", a, e, .memory ha hempty, hsound, ?_⟩
    rw [FunctionResources.quantities, hadd]
  · rcases addQuantity_cases list₁ "cpu" r.cpu with
      ⟨a, e, ha, hempty, hsound, hadd⟩ | ⟨list₂, hsound₂, hadd₂, hothers₂, hget₂⟩
    · refine .inl ⟨"cpu", a, e, .cpu ha hempty, hsound, ?_⟩
      rw [FunctionResources.quantities, hadd₁]
      exact hadd
    · refine .inr ⟨list₂, ?_, ?_, fun resource q => ?_⟩
      · intro resource a h
        cases h with
        | memory ha hempty => exact hsound₁ a ha hempty
        | cpu ha hempty => exact hsound₂ a ha hempty
      · rw [FunctionResources.quantities, hadd₁]
        exact hadd₂
      · simp only [FunctionResources.states_iff]
        by_cases hmemory : resource = "memory"
        · subst hmemory
          rw [hothers₂ _ hne.symm, hget₁ rfl]
          simp [and_assoc]
        · by_cases hcpu : resource = "cpu"
          · subst hcpu
            rw [hget₂ (hothers₁ _ hne)]
            simp [and_assoc]
          · rw [hothers₂ _ hcpu, hothers₁ _ hmemory]
            simp [hmemory, hcpu]

theorem quantityList_cases (r : Option FunctionResources) :
    (∃ resource a e, States r resource a ∧ ¬Quantity.Sound a ∧ quantityList r = .error e) ∨
    ∃ list, (∀ resource a, States r resource a → Quantity.Sound a) ∧ quantityList r = .ok list ∧
      Lists r list := by
  cases r with
  | none => exact .inr ⟨none, nofun, rfl, by simp [States], by simp [States]⟩
  | some r =>
      have hstates {resource a : String} : States (some r) resource a ↔ r.States resource a := by
        simp [States]
      rcases quantities_cases r with
        ⟨resource, a, e, ha, hsound, hlist⟩ | ⟨list, hsound, hlist, hget⟩
      · refine .inl ⟨resource, a, e, hstates.mpr ha, hsound, ?_⟩
        rw [quantityList, hlist]
        rfl
      · refine .inr ⟨if list.isEmpty then none else some list, ?_, ?_, ?_⟩
        · exact fun resource a h => hsound resource a (hstates.mp h)
        · rw [quantityList, hlist]
          rfl
        · have hbind (resource : String) :
              (if list.isEmpty then none else some list).bind (·.get? resource) =
                list.get? resource :=
            list.bind_get?_of_isEmpty resource
          refine ⟨fun resource q => ?_, ?_⟩
          · rw [hbind, hget]
            simp only [hstates]
          · constructor
            · intro habsent resource a h
              have hsome := (hget resource _).mpr ⟨a, hstates.mp h, rfl⟩
              rw [← hbind, habsent] at hsome
              cases hsome
            · intro h
              have hempty : list = ∅ := by
                apply StringMap.ext_get?
                intro resource
                rw [StringMap.get?_emptyCollection, Option.eq_none_iff_forall_ne_some]
                intro q hq
                obtain ⟨a, ha, -⟩ := (hget resource q).mp hq
                exact h resource a (hstates.mpr ha)
              rw [hempty]
              rfl

end Lists

/-! ## The container -/

namespace FunctionSpec

/-- One amount that is no quantity leaves the container without resources; otherwise it has those
that are declared, all of them quantities. -/
theorem containerResources_cases (s : FunctionSpec) :
    s.Faulty ∧ s.containerResources = none ∨
    ¬s.Faulty ∧ s.Requires s.containerResources := by
  rcases quantityList_cases s.limits with
    ⟨resource, a, e, ha, hsound, hlist⟩ | ⟨limits, hlimits, hlist, hlists⟩
  · refine .inl ⟨⟨resource, a, .inl ha, hsound⟩, ?_⟩
    simp only [containerResources, resourceRequirements, hlist]
  · rcases quantityList_cases s.requests with
      ⟨resource, a, e, ha, hsound, hlist'⟩ | ⟨requests, hrequests, hlist', hlists'⟩
    · refine .inl ⟨⟨resource, a, .inr ha, hsound⟩, ?_⟩
      simp only [containerResources, resourceRequirements, hlist, hlist']
    · refine .inr ⟨?_, ?_⟩
      · rintro ⟨resource, a, h | h, hsound⟩
        · exact hsound (hlimits resource a h)
        · exact hsound (hrequests resource a h)
      · have hresources : s.containerResources =
            if limits.isNone && requests.isNone then none else some ⟨limits, requests, ∅⟩ := by
          simp only [containerResources, resourceRequirements, hlist, hlist']
        rw [hresources]
        cases limits with
        | none =>
            cases requests with
            | none => exact ⟨hlists, hlists', by simp, nofun⟩
            | some _ => exact ⟨hlists, hlists', by simp, by simp⟩
        | some _ => exact ⟨hlists, hlists', by simp, by simp⟩

end FunctionSpec

/-- All quantities of the requirements. -/
def ResourceRequirements.quantities (r : ResourceRequirements) : List Quantity :=
  r.limits.elim [] StringMap.values ++ r.requests.elim [] StringMap.values

theorem Lists.sound {r : Option FunctionResources} {list : Option (StringMap Quantity)}
    (h : Lists r list) (hsound : ∀ resource a, States r resource a → Quantity.Sound a)
    {q : Quantity} (hq : q ∈ list.elim [] StringMap.values) : Quantity.parse q.text = .ok q := by
  cases list with
  | none => cases hq
  | some list =>
      obtain ⟨resource, hget⟩ := StringMap.mem_values_iff.mp hq
      obtain ⟨a, ha, rfl⟩ := (h.get?_iff resource q).mp hget
      exact Quantity.parse_trimmed (hsound resource a ha)

theorem FunctionSpec.parse_quantities {s : FunctionSpec} {r : ResourceRequirements}
    (h : s.containerResources = some r) {q : Quantity} (hq : q ∈ r.quantities) :
    Quantity.parse q.text = .ok q := by
  rcases s.containerResources_cases with ⟨-, hnone⟩ | ⟨hsound, hrequires⟩
  · rw [hnone] at h
    cases h
  · rw [h] at hrequires
    rcases List.mem_append.mp hq with hq | hq
    · refine hrequires.limits.sound (fun resource a ha => ?_) hq
      exact by_contra fun hnot => hsound ⟨resource, a, .inl ha, hnot⟩
    · refine hrequires.requests.sound (fun resource a ha => ?_) hq
      exact by_contra fun hnot => hsound ⟨resource, a, .inr ha, hnot⟩

/-! ## The Deployment -/

/-- Puts the text of a declaration in place of the one that the metadata carry. -/
def ObjectMeta.declaring (text : String) (m : ObjectMeta) : ObjectMeta :=
  { m with annotations := m.annotations.map (·.insert specAnnotation text) }

namespace Deployment

/-- Puts the text of a declaration in place of the one that the Deployment and its pods carry. -/
def declaring (text : String) (d : Deployment) : Deployment :=
  { d with
    metadata := d.metadata.declaring text
    spec := d.spec.map fun s =>
      { s with
        template := { s.template with metadata := s.template.metadata.map (·.declaring text) } } }

def requiring (resources : Option ResourceRequirements) (d : Deployment) : Deployment :=
  d.mapPod fun p => { p with containers := p.containers.map fun c => { c with resources } }

def containers (d : Deployment) : List Container := (d.pod?.map (·.containers)).getD []

/-- All quantities of the containers.  On a rendered Deployment there are no others
(`FunctionObject.unlimited_of_pod?`). -/
def quantities (d : Deployment) : List Quantity :=
  d.containers.flatMap fun c => c.resources.elim [] ResourceRequirements.quantities

end Deployment

/-- No quantity is on the pod but those of its containers' resources: it has no overhead, and its
volumes have no size, neither the empty ones nor any that would have to be claimed. -/
structure PodSpec.Unlimited (p : PodSpec) : Prop where
  pod : p.other = ∅
  containers : ∀ c ∈ p.containers, c.other = ∅
  volumes : ∀ v ∈ p.volumes.getD [], v.other = ∅
  emptyDirs : ∀ v ∈ p.volumes.getD [], ∀ e, v.emptyDir = some e → e.other = ∅

namespace FunctionObject

def withoutAmounts (f : FunctionObject) : FunctionObject :=
  { f with spec := { f.spec with limits := none, requests := none } }

variable (f : FunctionObject) (owner : OwnerReference) (secrets : Secrets) (policy : PullPolicy)

theorem workloadAnnotations_withoutAmounts :
    f.withoutAmounts.spec.workloadAnnotations.insert specAnnotation f.spec.render =
      f.spec.workloadAnnotations :=
  StringMap.insert_insert _ _ _ _

theorem unlimited_of_pod? {f : FunctionObject} {owner : OwnerReference} {secrets : Secrets}
    {policy : PullPolicy} {p : PodSpec} (h : (f.deployment owner secrets policy).pod? = some p) :
    p.Unlimited := by
  rw [f.pod?_deployment, Option.some_inj] at h
  subst h
  have hvolume {v : Volume} (hv : v ∈ (nonEmpty? (f.spec.podVolumes secrets)).getD []) :
      v = tempVolume ∨ v = f.spec.secretsVolume secrets :=
    FunctionSpec.eq_of_mem_podVolumes (getD_nonEmpty? (f.spec.podVolumes secrets) ▸ hv)
  refine ⟨rfl, ?_, fun v hv => ?_, fun v hv e he => ?_⟩
  · intro c hc
    rw [List.mem_singleton.mp hc]
    rfl
  · rcases hvolume hv with rfl | rfl <;> rfl
  · rcases hvolume hv with rfl | rfl
    · cases he
      rfl
    · cases he

/-- Amounts show in the resources of the container, and in the text of the declaration. -/
theorem deployment_eq_requiring : f.deployment owner secrets policy =
    ((f.withoutAmounts.deployment owner secrets policy).requiring
      f.spec.containerResources).declaring f.spec.render := by
  have hpod : ((f.pod policy).configureReadOnly f.spec.readOnlyRootFilesystem).updateSecrets
      f.spec secrets =
      (fun p : PodSpec => { p with
        containers := p.containers.map fun c => { c with resources := f.spec.containerResources } })
      (((f.withoutAmounts.pod policy).configureReadOnly
        f.spec.readOnlyRootFilesystem).updateSecrets f.withoutAmounts.spec secrets) := rfl
  simp only [deployment, Deployment.updateSecrets, Deployment.configureReadOnly, bareDeployment,
    Deployment.mapPod, Option.map_some, Deployment.requiring, Deployment.declaring,
    ObjectMeta.declaring, ownedMeta, workloadAnnotations_withoutAmounts, hpod]
  rfl

end FunctionObject

/-- The one container of the pod has no resources if some amount that is declared and not empty is
no quantity, and otherwise exactly the declared ones without the white space at their ends, absent
where there are none.  Apart from them and from the text of the declaration, the Deployment is the
one of a function without amounts, and every quantity on it is read as it stands. -/
theorem resources_all_or_nothing (f : FunctionObject) (owner : OwnerReference) (secrets : Secrets)
    (policy : PullPolicy) :
    ∃ c, (f.deployment owner secrets policy).containers = [c] ∧
      (f.spec.Faulty → c.resources = none) ∧
      (¬f.spec.Faulty → f.spec.Requires c.resources) ∧
      f.deployment owner secrets policy =
        ((f.withoutAmounts.deployment owner secrets policy).requiring c.resources).declaring
          f.spec.render ∧
      ∀ q ∈ (f.deployment owner secrets policy).quantities, Quantity.parse q.text = .ok q := by
  obtain ⟨c, hc, hresources⟩ : ∃ c, (f.deployment owner secrets policy).containers = [c] ∧
      c.resources = f.spec.containerResources := by
    rw [Deployment.containers, f.pod?_deployment]
    exact ⟨_, rfl, rfl⟩
  refine ⟨c, hc, fun hfaulty => ?_, fun hsound => ?_, ?_, fun q hq => ?_⟩
  · rcases f.spec.containerResources_cases with ⟨-, hnone⟩ | ⟨hsound, -⟩
    · rw [hresources, hnone]
    · exact absurd hfaulty hsound
  · rcases f.spec.containerResources_cases with ⟨hfaulty, -⟩ | ⟨-, hrequires⟩
    · exact absurd hfaulty hsound
    · rw [hresources]
      exact hrequires
  · rw [hresources]
    exact f.deployment_eq_requiring owner secrets policy
  · rw [Deployment.quantities, hc, List.flatMap_singleton, hresources] at hq
    cases hr : f.spec.containerResources with
    | none =>
        rw [hr] at hq
        cases hq
    | some r =>
        rw [hr] at hq
        exact FunctionSpec.parse_quantities hr hq

def measuredFunction (limits requests : FunctionResources) : FunctionObject :=
  ⟨{ ObjectMeta.empty with name := some "echo", ns := some "openfaas-fn", uid := some "8f3c5e1a" },
    { FunctionSpec.empty with name := "echo", limits := some limits, requests := some requests },
    none⟩

/-- Amounts with an empty one among them. -/
def trimmedFunction : FunctionObject :=
  measuredFunction ⟨some " 128Mi", some ""⟩ ⟨none, some "500m"⟩

/-- Amounts with a blank one among them. -/
def spoiledFunction : FunctionObject :=
  measuredFunction ⟨some " 128Mi", some " "⟩ ⟨none, some "500m"⟩

def measuredOwner : OwnerReference :=
  ⟨FunctionObject.apiVersion, FunctionObject.kind, "echo", "8f3c5e1a", some true, some true⟩

/-- An empty amount is passed over, and a blank one spoils all others. -/
theorem resources_all_or_nothing_measured :
    (¬trimmedFunction.spec.Faulty ∧
      (∃ c, (trimmedFunction.deployment measuredOwner ∅ .always).containers = [c] ∧
        trimmedFunction.spec.Requires c.resources) ∧
      ⟨"128Mi"⟩ ∈ (trimmedFunction.deployment measuredOwner ∅ .always).quantities ∧
      Quantity.parse "128Mi" = .ok ⟨"128Mi"⟩) ∧
    spoiledFunction.spec.Faulty ∧
    ∃ c, (spoiledFunction.deployment measuredOwner ∅ .always).containers = [c] ∧
      c.resources = none := by
  constructor
  · have hsound : ¬trimmedFunction.spec.Faulty := by
      rcases trimmedFunction.spec.containerResources_cases with ⟨-, hnone⟩ | ⟨hsound, -⟩
      · cases hnone
      · exact hsound
    obtain ⟨c, hc, -, hrequires, -, hquantities⟩ :=
      resources_all_or_nothing trimmedFunction measuredOwner ∅ .always
    have hmem : ⟨"128Mi"⟩ ∈ (trimmedFunction.deployment measuredOwner ∅ .always).quantities :=
      List.mem_cons_self
    exact ⟨hsound, ⟨c, hc, hrequires hsound⟩, hmem, hquantities _ hmem⟩
  · have hfaulty : spoiledFunction.spec.Faulty := by
      refine ⟨"cpu", " ", .inl ⟨_, rfl, .cpu rfl (by decide)⟩, fun hsound => ?_⟩
      have hblank : Quantity.parse " " = .error .empty := rfl
      rw [Quantity.parse_of_sound hsound] at hblank
      cases hblank
    obtain ⟨c, hc, hnone, -⟩ := resources_all_or_nothing spoiledFunction measuredOwner ∅ .always
    exact ⟨hfaulty, c, hc, hnone hfaulty⟩

end FaasOperator
