/-
# `FaasOperator.Proofs.Workload.Selectors` — which pods the rendered selectors pick

## What is proved

A Deployment knows its pods by the labels `app` and `controller`, a Service by the function's label;
the pods carry all three, but the user's own labels come on top, and replace them on the pods and
nowhere else.  So (`selects_pods_iff`):

    the Deployment picks its pods   iff   the user leaves app and controller at their values
    the Service picks the pods      iff   the user leaves the function's label at its value

## What fails

A function whose user declares another `app` has a Deployment that asks for pods that it does not
make (`relabelled_pods_unselected`).
-/
import FaasOperator.Proofs.Workload.Change
import FaasOperator.Workload.Deployment

namespace FaasOperator

/-- Each key of the selector has its value among the labels. -/
def Selects (selector labels : StringMap String) : Prop :=
  ∀ key value, selector.get? key = some value → labels.get? key = some value

theorem selects_empty (labels : StringMap String) : Selects ∅ labels := by
  intro key value h
  cases h

theorem selects_insert_iff {selector labels : StringMap String} {key value : String}
    (hnew : selector.get? key = none) :
    Selects (selector.insert key value) labels ↔
      Selects selector labels ∧ labels.get? key = some value := by
  constructor
  · intro h
    refine ⟨?_, h key value (selector.get?_insert_self key value)⟩
    intro k v hk
    have hne : k ≠ key := by
      rintro rfl
      rw [hnew] at hk
      cases hk
    exact h k v ((selector.get?_insert_of_ne hne value).trans hk)
  · rintro ⟨hall, hkey⟩ k v hk
    rw [selector.get?_insert] at hk
    split at hk
    · rename_i heq
      cases hk
      rw [heq]
      exact hkey
    · exact hall k v hk

/-! ## The labels of the workload -/

/-- The labels by which the Deployment knows its pods. -/
def Deployment.matchLabels (d : Deployment) : StringMap String :=
  (d.spec.bind (·.selector.matchLabels)).getD ∅

/-- The labels of the pods that the Deployment makes. -/
def Deployment.templateLabels (d : Deployment) : StringMap String :=
  (d.spec.bind fun s => s.template.metadata.bind (·.labels)).getD ∅

def Service.selectorLabels (s : Service) : StringMap String := (s.spec.bind (·.selector)).getD ∅

/-- The user declares no other value for the label. -/
def FunctionSpec.Leaves (s : FunctionSpec) (key value : String) : Prop :=
  ∀ own, (s.labels.getD ∅).get? key = some own → own = value

namespace FunctionObject

variable (f : FunctionObject) (owner : OwnerReference) (secrets : Secrets) (policy : PullPolicy)

/-- The pods' labels before the user's own. -/
def baseLabels : StringMap String :=
  (((∅ : StringMap String).insert functionLabel f.spec.name).insert "app" f.spec.name).insert
    "controller" f.metadata.anyName

theorem matchLabels_deployment :
    (f.deployment owner secrets policy).matchLabels = f.selectorLabels := rfl

theorem templateLabels_deployment :
    (f.deployment owner secrets policy).templateLabels = f.podLabels := rfl

theorem selectorLabels_service :
    (f.service owner).selectorLabels = (∅ : StringMap String).insert functionLabel f.spec.name := rfl

variable {f}

/-- A label stays on the pods unless the user declares another value for it. -/
theorem get?_podLabels_iff {key value : String} (hbase : f.baseLabels.get? key = some value) :
    f.podLabels.get? key = some value ↔ f.spec.Leaves key value := by
  have hlookup : f.podLabels.get? key = ((f.spec.labels.getD ∅).get? key).or (some value) := by
    rw [← hbase]
    exact f.baseLabels.get?_overlay _ key
  rw [hlookup, FunctionSpec.Leaves]
  cases (f.spec.labels.getD ∅).get? key with
  | none => simp
  | some own => simp

theorem selects_matchLabels_iff :
    Selects f.selectorLabels f.podLabels ↔
      f.spec.Leaves "app" f.spec.name ∧ f.spec.Leaves "controller" f.metadata.anyName := by
  have happ : f.baseLabels.get? "app" = some f.spec.name := rfl
  have hcontroller : f.baseLabels.get? "controller" = some f.metadata.anyName := rfl
  rw [selectorLabels, selects_insert_iff (by rfl), selects_insert_iff (by rfl),
    get?_podLabels_iff happ, get?_podLabels_iff hcontroller]
  simp [selects_empty]

theorem selects_functionLabel_iff :
    Selects ((∅ : StringMap String).insert functionLabel f.spec.name) f.podLabels ↔
      f.spec.Leaves functionLabel f.spec.name := by
  have hlabel : f.baseLabels.get? functionLabel = some f.spec.name := rfl
  rw [selects_insert_iff (by rfl), get?_podLabels_iff hlabel]
  simp [selects_empty]

end FunctionObject

/-- The rendered selectors pick the pods that are rendered for the same function exactly if the user
leaves the labels that they ask for at their values: the Deployment's selector asks for `app` and
`controller`, and the Service's for the function's label. -/
theorem selects_pods_iff (f : FunctionObject) (owner : OwnerReference) (secrets : Secrets)
    (policy : PullPolicy) :
    (Selects (f.deployment owner secrets policy).matchLabels
        (f.deployment owner secrets policy).templateLabels ↔
      f.spec.Leaves "app" f.spec.name ∧ f.spec.Leaves "controller" f.metadata.anyName) ∧
    (Selects (f.service owner).selectorLabels
        (f.deployment owner secrets policy).templateLabels ↔
      f.spec.Leaves functionLabel f.spec.name) := by
  rw [f.matchLabels_deployment, f.templateLabels_deployment, f.selectorLabels_service]
  exact ⟨f.selects_matchLabels_iff, f.selects_functionLabel_iff⟩

/-- A function whose user declares another value for `app`. -/
def relabelledFunction : FunctionObject :=
  ⟨{ ObjectMeta.empty with name := some "echo", ns := some "openfaas-fn", uid := some "8f3c5e1a" },
    { FunctionSpec.empty with
      name := "echo"
      labels := some ((∅ : StringMap String).insert "app" "shop") },
    none⟩

def relabelledOwner : OwnerReference :=
  ⟨FunctionObject.apiVersion, FunctionObject.kind, "echo", "8f3c5e1a", some true, some true⟩

/-- Its Deployment asks for pods that it does not make. -/
theorem relabelled_pods_unselected :
    let d := relabelledFunction.deployment relabelledOwner ∅ .always
    d.matchLabels.get? "app" = some "echo" ∧ d.templateLabels.get? "app" = some "shop" ∧
      ¬Selects d.matchLabels d.templateLabels := by
  intro d
  have hselector : d.matchLabels.get? "app" = some "echo" := rfl
  have hpod : d.templateLabels.get? "app" = some "shop" := rfl
  refine ⟨hselector, hpod, fun h => ?_⟩
  have happ := h "app" "echo" hselector
  rw [hpod] at happ
  exact absurd happ (by decide)

end FaasOperator
