/-
# `FaasOperator.Proofs.Operator.ApiServer` — an API server that many clients write to

All that is supposed of it: each stored state of a Deployment is at a version of its own, a creation
needs the name to be free, a replacement needs the version that is stored, and what a watch reports
was stored once.  Calls may fail with or without having had their effect, news may be late, and
other clients may write what they like.
-/
import FaasOperator.Proofs.Index.Notify
import FaasOperator.Proofs.Operator.System

namespace FaasOperator

/-- The Deployments that are stored, and all that ever were. -/
structure ApiServer where
  current : ResourceKey → Option Deployment
  history : List (ResourceKey × Deployment)

namespace ApiServer

def store (s : ApiServer) (k : ResourceKey) (d : Deployment) : ApiServer :=
  ⟨Function.update s.current k (some d), (k, d) :: s.history⟩

def remove (s : ApiServer) (k : ResourceKey) : ApiServer :=
  { s with current := Function.update s.current k none }

/-- The Deployment is at a version at which none was stored under the key. -/
def Fresh (s : ApiServer) (k : ResourceKey) (d : Deployment) : Prop :=
  ∃ version, d.metadata.resourceVersion = some version ∧
    ∀ old, (k, old) ∈ s.history → old.metadata.resourceVersion ≠ some version

/-- The server takes a Deployment that was sent to replace the stored one, and stores it as it sees
fit. -/
inductive Replaces (s : ApiServer) (sent : Deployment) : ApiServer → Prop
  | mk {k : ResourceKey} {old stored : Deployment} :
      sent.metadata.key? = some k → s.current k = some old →
      sent.metadata.resourceVersion = old.metadata.resourceVersion →
      s.Fresh k stored → Replaces s sent (s.store k stored)

/-- The answers to a call.  A write that had its effect may be answered with an error: the answer
was lost. -/
inductive Answers (s : ApiServer) : (c : Call) → c.Answer → ApiServer → Prop
  | created {d stored : Deployment} {k : ResourceKey} {a : Except ClusterError Deployment} :
      d.metadata.key? = some k → s.current k = none → s.Fresh k stored →
      Answers s (.createDeployment d) a (s.store k stored)
  | replaced {d : Deployment} {a : Except ClusterError Deployment} {s' : ApiServer} :
      s.Replaces d s' → Answers s (.updateDeployment d) a s'
  | unchanged {c : Call} {a : c.Answer} : Answers s c a s

/-- What other clients do: they write, or remove. -/
inductive Moves (s : ApiServer) : ApiServer → Prop
  | wrote {k : ResourceKey} {d : Deployment} : s.Fresh k d → Moves s (s.store k d)
  | removed {k : ResourceKey} : Moves s (s.remove k)

/-- The Deployments that are reported were stored once. -/
def Reports (s : ApiServer) (n : Notification) : Prop :=
  ∀ d ∈ n.deployments, ∀ k, d.metadata.key? = some k → (k, d) ∈ s.history

/-- What is stored was stored, and no version was used twice. -/
structure Consistent (s : ApiServer) : Prop where
  stored : ∀ k d, s.current k = some d → (k, d) ∈ s.history
  versions : ∀ k d d', (k, d) ∈ s.history → (k, d') ∈ s.history →
    d.metadata.resourceVersion = d'.metadata.resourceVersion → d = d'

/-- The server as surroundings of the operator. -/
abbrev surroundings (config : ReconcileConfig) (backoff : Backoff) : Surroundings :=
  ⟨ApiServer, Consistent, Answers, Moves, Reports, config, backoff⟩

/-! ## Consistency -/

variable {s s' : ApiServer}

theorem current_store_self (s : ApiServer) (k : ResourceKey) (d : Deployment) :
    (s.store k d).current k = some d :=
  Function.update_self ..

theorem current_store_of_ne (s : ApiServer) {k k' : ResourceKey} (h : k' ≠ k) (d : Deployment) :
    (s.store k d).current k' = s.current k' :=
  Function.update_of_ne h ..

theorem current_remove (s : ApiServer) (k k' : ResourceKey) :
    (s.remove k).current k' = if k' = k then none else s.current k' :=
  Function.update_apply ..

theorem Consistent.store (h : s.Consistent) {k : ResourceKey} {d : Deployment} (hd : s.Fresh k d) :
    (s.store k d).Consistent := by
  obtain ⟨version, hversion, hfresh⟩ := hd
  constructor
  · intro k' d' hd'
    by_cases hk : k' = k
    · subst hk
      rw [current_store_self] at hd'
      cases hd'
      exact List.mem_cons_self
    · rw [current_store_of_ne s hk] at hd'
      exact List.mem_cons_of_mem _ (h.stored k' d' hd')
  · intro k' d₁ d₂ h₁ h₂ heq
    rcases List.mem_cons.mp h₁ with e₁ | h₁ <;> rcases List.mem_cons.mp h₂ with e₂ | h₂
    · cases e₁
      cases e₂
      rfl
    · cases e₁
      exact absurd (heq.symm.trans hversion) (hfresh d₂ h₂)
    · cases e₂
      exact absurd (heq.trans hversion) (hfresh d₁ h₁)
    · exact h.versions k' d₁ d₂ h₁ h₂ heq

theorem Consistent.remove (h : s.Consistent) (k : ResourceKey) : (s.remove k).Consistent where
  stored := by
    intro k' d' hd'
    rw [current_remove] at hd'
    split at hd'
    · cases hd'
    · exact h.stored k' d' hd'
  versions := h.versions

theorem Consistent.replaces (h : s.Consistent) {d : Deployment} (hr : s.Replaces d s') :
    s'.Consistent := by
  obtain ⟨-, -, -, hfresh⟩ := hr
  exact h.store hfresh

theorem Consistent.answers (h : s.Consistent) {c : Call} {a : c.Answer} (ha : s.Answers c a s') :
    s'.Consistent := by
  cases ha with
  | created _ _ hfresh => exact h.store hfresh
  | replaced hr => exact h.replaces hr
  | unchanged => exact h

theorem Consistent.moves (h : s.Consistent) (hm : s.Moves s') : s'.Consistent := by
  cases hm with
  | wrote hfresh => exact h.store hfresh
  | removed => exact h.remove _

/-! ## History -/

theorem Replaces.history {d : Deployment} (hr : s.Replaces d s') :
    ∀ e ∈ s.history, e ∈ s'.history := by
  obtain ⟨-, -, -, -⟩ := hr
  exact fun e he => List.mem_cons_of_mem _ he

theorem Answers.history {c : Call} {a : c.Answer} (ha : s.Answers c a s') :
    ∀ e ∈ s.history, e ∈ s'.history := by
  cases ha with
  | created _ _ _ => exact fun e he => List.mem_cons_of_mem _ he
  | replaced hr => exact hr.history
  | unchanged => exact fun e he => he

theorem Moves.history (hm : s.Moves s') : ∀ e ∈ s.history, e ∈ s'.history := by
  cases hm with
  | wrote _ => exact fun e he => List.mem_cons_of_mem _ he
  | removed => exact fun e he => he

theorem Answers.replaces {c : Call} {a : c.Answer} (ha : s.Answers c a s') {k : ResourceKey}
    {old : Deployment} (hold : s.current k = some old) (hnew : s'.current k ≠ some old) :
    ∃ d, c = .updateDeployment d ∧ s.Replaces d s' ∧ d.metadata.key? = some k := by
  cases ha with
  | @created d stored k' a _ hnone _ =>
      have hne : k ≠ k' := by
        rintro rfl
        rw [hold] at hnone
        cases hnone
      exact absurd ((current_store_of_ne s hne stored).trans hold) hnew
  | @replaced d a _ hr =>
      refine ⟨d, rfl, hr, ?_⟩
      obtain @⟨k', old', stored, hkey, -, -, -⟩ := hr
      by_cases hne : k = k'
      · rw [hne, hkey]
      · exact absurd ((current_store_of_ne s hne stored).trans hold) hnew
  | unchanged => exact absurd hold hnew

end ApiServer

end FaasOperator
