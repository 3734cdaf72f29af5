/-
# `FaasOperator.Proofs.Reconcile.Fronted` — when a reconcile looks at the Service

Only when it creates the workload, and then before anything else.  So when it sends a Deployment, or
has gone well, it has come past the Service, or else it saw a Deployment that is the function's own
(`sync_fronted`); and once there is a Deployment, it creates no Service any more
(`syncOwned_creates_no_service`).
-/
import FaasOperator.Proofs.Reconcile.Protocol

namespace FaasOperator

open Plan

/-- A Deployment is about to be sent, or the workload is in line. -/
def Attempt.Commits : Attempt Outcome → Prop
  | .call c _ => ∃ d, c.sent? = some d
  | .done (.ok o) => o = .created ∨ o = .updated ∨ o = .unchanged
  | .done (.error _) => False

/-- The Service was created, or was there already. -/
def Exchange.Fronts (service : Service) (e : Exchange) : Prop :=
  e.call = .createService service ∧ e.failure? = none

section Fronted

variable {cfg : ReconcileConfig} {f : FunctionObject} {owner : OwnerReference}

theorem FunctionObject.key?_service {key : ResourceKey} (hkey : f.metadata.key? = some key)
    (hname : f.spec.name.isEmpty = false) (owner : OwnerReference) :
    (f.service owner).metadata.key? = some ⟨key.ns, f.spec.name⟩ := by
  obtain ⟨hns, -, hempty, -⟩ := ObjectMeta.key?_eq_some_iff.mp hkey
  exact ObjectMeta.key?_eq_some_iff.mpr ⟨hns, rfl, hempty, hname⟩

theorem syncOwned_fronted {current : Option Deployment} {t : List Exchange} {q : Attempt Outcome}
    (howner : f.ownerReference? = some owner) (h : (syncOwned cfg f owner current).After t q)
    (hq : q.Commits) :
    (∃ d, current = some d ∧ f.controls d = true) ∨ ∃ e ∈ t, e.Fronts (f.service owner) := by
  cases current with
  | some d =>
      have hcontrols := FunctionObject.controls_eq_isControlledBy howner d
      cases howned : d.isControlledBy owner with
      | true => exact .inl ⟨d, rfl, hcontrols.trans howned⟩
      | false =>
          -- the plan reports the conflict, and that is all
          simp only [syncOwned, howned] at h
          obtain ⟨-, rfl⟩ | ⟨a, t', -, hdone⟩ := after_call_iff.mp h
          · obtain ⟨d', hd'⟩ := hq
            cases hd'
          · obtain ⟨-, rfl⟩ := after_done_iff.mp hdone
            rcases hq with h | h | h <;> cases h
  | none =>
      refine .inr ?_
      obtain ⟨-, rfl⟩ | ⟨answer, t', rfl, hnext⟩ := after_call_iff.mp h
      · obtain ⟨d, hd⟩ := hq
        cases hd
      · refine ⟨_, List.mem_cons_self, rfl, ?_⟩
        cases (answer : Except ClusterError Unit) with
        | ok u => rfl
        | error e =>
            cases hexists : e.isAlreadyExists with
            | true => exact createReport?_of_exists hexists
            | false =>
                -- the Service could not be created, and nothing else is done
                simp only [hexists] at hnext
                obtain ⟨-, rfl⟩ := after_done_iff.mp hnext
                exact absurd hq id

/-- Before a reconcile sends a Deployment or goes well, it has come past the Service, unless the
Deployment that it saw is the function's own. -/
theorem sync_fronted {seen : Observed} {key : ResourceKey} {t : List Exchange}
    {q : Attempt Outcome} (h : (sync cfg seen key).After t q) (hq : q.Commits) :
    ∃ f owner, seen.function? key = some f ∧ f.spec.name.isEmpty = false ∧
      ((∃ d, seen.deployment? ⟨key.ns, f.spec.name⟩ = some d ∧ f.controls d = true) ∨
        ∃ e ∈ t, e.Fronts (f.service owner)) := by
  rcases sync_cases cfg seen key with hskip | ⟨f, owner, hf, hname, howner, hsync⟩
  · rw [hskip] at h
    obtain ⟨-, rfl⟩ := after_done_iff.mp h
    rcases hq with h | h | h <;> cases h
  · rw [hsync] at h
    exact ⟨f, owner, hf, hname, syncOwned_fronted howner h hq⟩

/-- Once there is a Deployment, no Service is created any more. -/
theorem syncOwned_creates_no_service (current : Deployment) :
    (syncOwned cfg f owner (some current)).Only fun c => ∀ service, c ≠ .createService service := by
  have hreads {c : Call} (hc : c.ReadsSecret) (service : Service) : c ≠ .createService service := by
    rintro rfl
    exact hc
  have hconclude (outcome : Outcome) (d : Option Deployment) :
      (concludeSync cfg f outcome d).Only fun c => ∀ service, c ≠ .createService service := by
    refine (concludeSync_only cfg f outcome d).mono ?_
    rintro c hc service rfl
    exact hc
  unfold syncOwned
  dsimp only
  split
  · exact ⟨fun service h => (by cases h), fun _ => trivial⟩
  · split
    · refine Attempt.only_andThen ((updateWorkload_only cfg f owner current).mono ?_)
        fun updated => hconclude .updated (some updated)
      rintro c (hc | ⟨secrets, rfl⟩) service
      · exact hreads hc service
      · exact fun h => by cases h
    · exact hconclude .unchanged (some current)

end Fronted

end FaasOperator
