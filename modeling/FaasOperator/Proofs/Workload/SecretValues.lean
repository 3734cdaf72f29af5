/-
# `FaasOperator.Proofs.Workload.SecretValues` — the bytes that Secrets hold make no difference

Rendering looks at the type of a declared Secret and at the keys under which something is held, and
at no Secret that is not declared; so Secrets that are alike in that under the declared names make
the same Deployment (`FunctionObject.deployment_eq_of_alike`).
-/
import Mathlib.Data.List.Forall2
import FaasOperator.Proofs.StringMap
import FaasOperator.Workload.Deployment

namespace FaasOperator

/-- The Secrets are of one type and hold something under the same keys.  What they hold may differ.
-/
structure Secret.Alike (s s' : Secret) : Prop where
  type : s.type = s'.type
  keys : s.dataKeys = s'.dataKeys

/-- Under each of these names there are alike Secrets, or there is none on either side. -/
def Secrets.AlikeOn (names : List String) (a b : Secrets) : Prop :=
  ∀ name ∈ names, Option.Rel Secret.Alike (a.get? name) (b.get? name)

section Alike

variable {s s' : Secret} {a b : Secrets} {declared declared' : List (String × Secret)}

theorem Secret.Alike.isRegistryCredential (h : s.Alike s') :
    s.isRegistryCredential = s'.isRegistryCredential := by
  rw [Secret.isRegistryCredential, Secret.isRegistryCredential, h.type]

theorem Secret.Alike.projection (h : s.Alike s') (name : String) :
    s.projection name = s'.projection name := by
  rw [Secret.projection, Secret.projection, h.keys]

/-- The same names, with alike Secrets. -/
def DeclaredAlike : List (String × Secret) → List (String × Secret) → Prop :=
  List.Forall₂ fun e e' => e.1 = e'.1 ∧ e.2.Alike e'.2

theorem declaredAlike_filterMap {names : List String} (h : a.AlikeOn names b) :
    DeclaredAlike (names.filterMap fun name => (a.get? name).map (name, ·))
      (names.filterMap fun name => (b.get? name).map (name, ·)) := by
  induction names with
  | nil => exact .nil
  | cons name names ih =>
      have hrest := ih fun n hn => h n (List.mem_cons_of_mem name hn)
      have hfirst := h name List.mem_cons_self
      rw [List.filterMap_cons, List.filterMap_cons]
      generalize a.get? name = x at hfirst ⊢
      generalize b.get? name = y at hfirst ⊢
      cases hfirst with
      | none => exact hrest
      | some halike => exact .cons ⟨rfl, halike⟩ hrest

/-- What is picked and made of related elements is the same if neither tells them apart. -/
theorem map_filter_eq_of_forall₂ {α β : Type} {r : α → α → Prop} {p : α → Bool} {g : α → β}
    (hp : ∀ x y, r x y → p x = p y) (hg : ∀ x y, r x y → g x = g y) {xs ys : List α}
    (h : List.Forall₂ r xs ys) : (xs.filter p).map g = (ys.filter p).map g := by
  induction h with
  | nil => rfl
  | @cons x y _ _ hxy _ ih =>
      rw [List.filter_cons, List.filter_cons, hp x y hxy]
      split
      · rw [List.map_cons, List.map_cons, hg x y hxy, ih]
      · exact ih

theorem pullSecrets_eq (h : DeclaredAlike declared declared') :
    pullSecrets declared = pullSecrets declared' :=
  map_filter_eq_of_forall₂ (fun _ _ he => he.2.isRegistryCredential) (fun _ _ he => he.1) h

theorem projectionSources_eq (h : DeclaredAlike declared declared') :
    projectionSources declared = projectionSources declared' := by
  refine map_filter_eq_of_forall₂ (fun e e' he => ?_) (fun e e' he => ?_) h
  · rw [he.2.isRegistryCredential]
  · rw [he.1, he.2.projection]

theorem PodSpec.updateSecrets_eq {spec : FunctionSpec} (h : a.AlikeOn (spec.secrets.getD []) b)
    (p : PodSpec) : p.updateSecrets spec a = p.updateSecrets spec b := by
  have hdeclared : DeclaredAlike (spec.declaredSecrets a) (spec.declaredSecrets b) :=
    declaredAlike_filterMap fun name hname => h name (List.mem_eraseDups.mp hname)
  simp only [PodSpec.updateSecrets, pullSecrets_eq hdeclared, projectionSources_eq hdeclared]

theorem FunctionObject.deployment_eq_of_alike {f : FunctionObject}
    (h : a.AlikeOn (f.spec.secrets.getD []) b) (owner : OwnerReference) (policy : PullPolicy) :
    f.deployment owner a policy = f.deployment owner b policy := by
  have hpods : PodSpec.updateSecrets f.spec a = PodSpec.updateSecrets f.spec b :=
    funext (PodSpec.updateSecrets_eq h)
  rw [FunctionObject.deployment, FunctionObject.deployment, Deployment.updateSecrets,
    Deployment.updateSecrets, hpods]

/-! ## Building up Secrets -/

theorem Secrets.AlikeOn.contains {names : List String} (h : a.AlikeOn names b) {name : String}
    (hname : name ∈ names) : StringMap.contains a name = StringMap.contains b name := by
  have hrel := h name hname
  rw [StringMap.contains, StringMap.contains]
  generalize a.get? name = x at hrel ⊢
  generalize b.get? name = y at hrel ⊢
  cases hrel with
  | none => rfl
  | some _ => rfl

theorem Secrets.AlikeOn.insert {names : List String} (h : a.AlikeOn names b) (hs : s.Alike s')
    (name : String) :
    Secrets.AlikeOn names (StringMap.insert a name s) (StringMap.insert b name s') := by
  intro n hn
  rw [StringMap.get?_insert, StringMap.get?_insert]
  split
  · exact .some hs
  · exact h n hn

end Alike

end FaasOperator
