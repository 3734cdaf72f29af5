/-
# `FaasOperator.Proofs.Reconcile.Decision` — what a reconcile decides

A function as it is cached and the Deployment that is cached under the name that it declares make
one of four decisions, and a reconcile that succeeds has come to that one (`decided_of_yields`).
The decision is what the index has to keep up with, for what is not decided otherwise needs no pass.
-/
import FaasOperator.Index
import FaasOperator.Proofs.Reconcile.Calls

namespace FaasOperator

open Plan

/-- What is to be done about a function's Deployment. -/
inductive Decision where
  /-- There is none of that name. -/
  | create
  /-- Somebody else controls it. -/
  | conflict
  | update
  | unchanged
deriving DecidableEq

/-- What a reconcile calls the decision once it has carried it out. -/
def Decision.outcome : Decision → Outcome
  | .create => .created
  | .conflict => .conflict
  | .update => .updated
  | .unchanged => .unchanged

/-- The function controls the Deployment: the first reference that claims control is to its kind and
uid. -/
def FunctionObject.controls (f : FunctionObject) (d : Deployment) : Bool :=
  match d.metadata.controller? with
  | some r => r.kind == FunctionObject.kind && f.metadata.uid == some r.uid
  | none => false

/-- What is to be done, given the Deployment of the declared name. -/
def FunctionObject.decision (f : FunctionObject) : Option Deployment → Decision
  | none => .create
  | some d =>
      if !f.controls d then .conflict
      else if needsUpdate f.spec d then .update
      else .unchanged

/-- What is to be done about the function under a key, going by what is cached. -/
def Index.decision? (i : Index) (key : ResourceKey) : Option Decision :=
  (i.function? key).map fun f => f.decision (i.deployment? ⟨key.ns, f.spec.name⟩)

/-- The function's owner reference recognises what the function controls. -/
theorem FunctionObject.controls_eq_isControlledBy {f : FunctionObject} {owner : OwnerReference}
    (h : f.ownerReference? = some owner) (d : Deployment) :
    f.controls d = d.isControlledBy owner := by
  obtain ⟨name, uid, -, huid, rfl⟩ := FunctionObject.ownerReference?_eq_some h
  unfold FunctionObject.controls Deployment.isControlledBy
  cases d.metadata.controller? with
  | none => rfl
  | some r =>
      have huids : (some uid == some r.uid) = (r.uid == uid) := by
        rw [Bool.eq_iff_iff, beq_iff_eq, beq_iff_eq, Option.some_inj]
        exact eq_comm
      rw [huid]
      exact congrArg (r.kind == FunctionObject.kind && ·) huids

/-! ## What a reconcile comes to -/

theorem eq_of_yields_concludeSync {cfg : ReconcileConfig} {f : FunctionObject}
    {outcome o : Outcome} {d : Option Deployment} {t : List Exchange}
    (h : (concludeSync cfg f outcome d).Yields t (.ok o)) : o = outcome := by
  obtain ⟨t₁, a, t₂, rfl, -, hpublish⟩ := Attempt.yields_andThen_ok h
  obtain ⟨answer, t₃, rfl, hdone⟩ := yields_call_iff.mp hpublish
  exact Except.ok.inj (yields_done_iff.mp hdone).2

theorem eq_of_yields_syncOwned {cfg : ReconcileConfig} {f : FunctionObject}
    {owner : OwnerReference} {current : Option Deployment} {t : List Exchange} {o : Outcome}
    (howner : f.ownerReference? = some owner)
    (h : (syncOwned cfg f owner current).Yields t (.ok o)) :
    o = (f.decision current).outcome := by
  unfold syncOwned at h
  split at h
  · obtain ⟨t₁, a, t₂, rfl, -, hconclude⟩ := Attempt.yields_andThen_ok h
    exact eq_of_yields_concludeSync hconclude
  · rename_i d
    rw [FunctionObject.decision, FunctionObject.controls_eq_isControlledBy howner]
    split at h
    · rename_i hforeign
      rw [if_pos hforeign]
      obtain ⟨answer, t', rfl, hdone⟩ := yields_call_iff.mp h
      exact Except.ok.inj (yields_done_iff.mp hdone).2
    · rename_i howned
      rw [if_neg howned]
      split at h
      · rename_i hupdate
        rw [if_pos hupdate]
        obtain ⟨t₁, a, t₂, rfl, -, hconclude⟩ := Attempt.yields_andThen_ok h
        exact eq_of_yields_concludeSync hconclude
      · rename_i hsame
        rw [if_neg hsame]
        exact eq_of_yields_concludeSync h

theorem yields_syncOwned {cfg : ReconcileConfig} {seen : Observed} {key : ResourceKey}
    {f : FunctionObject} {t : List Exchange} {o : Outcome} (hf : seen.function? key = some f)
    (h : (sync cfg seen key).Yields t (.ok o)) (ho : o ≠ .skipped) :
    ∃ owner, f.ownerReference? = some owner ∧ f.spec.name.isEmpty = false ∧
      (syncOwned cfg f owner (seen.deployment? ⟨key.ns, f.spec.name⟩)).Yields t (.ok o) := by
  rcases sync_cases cfg seen key with hskip | ⟨g, owner, hg, hname, howner, hsync⟩
  · rw [hskip] at h
    exact absurd (Except.ok.inj (yields_done_iff.mp h).2) ho
  · rw [hf] at hg
    cases hg
    exact ⟨owner, howner, hname, hsync ▸ h⟩

theorem decided_of_yields {cfg : ReconcileConfig} {i : Index} {key : ResourceKey}
    {t : List Exchange} {o : Outcome} (h : (sync cfg i.observed key).Yields t (.ok o))
    (ho : o ≠ .skipped) : (i.decision? key).map Decision.outcome = some o := by
  unfold Index.decision?
  cases hf : i.function? key with
  | none =>
      have hnone : i.observed.function? key = none := hf
      simp only [sync, hnone] at h
      exact absurd (Except.ok.inj (yields_done_iff.mp h).2) ho
  | some f =>
      obtain ⟨owner, howner, -, howned⟩ := yields_syncOwned hf h ho
      rw [eq_of_yields_syncOwned howner howned]
      rfl

end FaasOperator
