/-
# `FaasOperator.Proofs.Reconcile.Calls` — the calls of a reconcile, part by part

Each part makes calls of its own kinds only, whatever the answers (the `only` lemmas), and where a
part succeeds its last call tells what was written (the `yields` lemmas).  Taken together, what a
reconcile replaces is the Deployment that it saw, and only one that the function controls
(`sync_only`).
-/
import FaasOperator.Proofs.Cluster.Plan
import FaasOperator.Reconcile

namespace FaasOperator

open Plan

def Call.ReadsSecret : Call → Prop
  | .getSecret _ _ => True
  | _ => False

/-- The call reports: the function's status, or an event. -/
def Call.Reports : Call → Prop
  | .patchStatus _ _ _ | .publish _ => True
  | _ => False

/-! ## Owners -/

theorem FunctionObject.ownerReference?_eq_some {f : FunctionObject} {owner : OwnerReference}
    (h : f.ownerReference? = some owner) :
    ∃ name uid, f.metadata.name = some name ∧ f.metadata.uid = some uid ∧
      owner =
        ⟨FunctionObject.apiVersion, FunctionObject.kind, name, uid, some true, some true⟩ := by
  unfold FunctionObject.ownerReference? at h
  split at h
  · rename_i name uid hname huid
    cases h
    exact ⟨name, uid, hname, huid, rfl⟩
  · cases h

/-- The owner that is found to control a Deployment is the first that claims to. -/
theorem Deployment.controller_of_isControlledBy {d : Deployment} {owner : OwnerReference}
    (h : d.isControlledBy owner = true) :
    ∃ r, d.metadata.controller? = some r ∧ r.kind = owner.kind ∧ r.uid = owner.uid := by
  unfold Deployment.isControlledBy at h
  split at h
  · rename_i r hr
    rw [Bool.and_eq_true, beq_iff_eq, beq_iff_eq] at h
    exact ⟨r, hr, h.1, h.2⟩
  · cases h

/-! ## Attempts -/

namespace Attempt

variable {α β : Type}

theorem only_andThen {P : Call → Prop} {p : Attempt α} {f : α → Attempt β} (hp : p.Only P)
    (hf : ∀ a, (f a).Only P) : (Attempt.andThen p f).Only P := by
  apply hp.andThen
  intro r
  cases r with
  | error e => trivial
  | ok a => exact hf a

theorem yields_andThen_ok {p : Attempt α} {f : α → Attempt β} {t : List Exchange} {b : β}
    (h : (Attempt.andThen p f).Yields t (.ok b)) :
    ∃ t₁ a t₂, t = t₁ ++ t₂ ∧ p.Yields t₁ (.ok a) ∧ (f a).Yields t₂ (.ok b) := by
  obtain ⟨t₁, r, t₂, rfl, h₁, h₂⟩ := yields_andThen_iff.mp h
  cases r with
  | error e => cases h₂
  | ok a => exact ⟨t₁, a, t₂, rfl, h₁, h₂⟩

end Attempt

/-! ## Secrets -/

theorem resolveSecrets_only (ns : String) (names : List String) (secrets : Secrets) :
    (resolveSecrets ns names secrets).Only Call.ReadsSecret := by
  induction names generalizing secrets with
  | nil => trivial
  | cons name names ih =>
      rw [resolveSecrets]
      split
      · exact ih secrets
      · refine ⟨trivial, fun answer => ?_⟩
        cases (answer : Except ClusterError Secret) with
        | error e => trivial
        | ok s => exact ih _

theorem FunctionObject.resolveSecrets_only (f : FunctionObject) :
    f.resolveSecrets.Only Call.ReadsSecret :=
  FaasOperator.resolveSecrets_only _ _ _

/-! ## The Deployment -/

/-- A Deployment that was created: the last call sent it, and what came back is known unless it was
there already. -/
theorem yields_createDeployment {cfg : ReconcileConfig} {f : FunctionObject}
    {owner : OwnerReference} {t : List Exchange} {created : Option Deployment}
    (h : (createDeployment cfg f owner).Yields t (.ok created)) :
    ∃ reads secrets, ∃ answer : Except ClusterError Deployment,
      t = reads ++ [⟨.createDeployment (f.deployment owner secrets cfg.imagePullPolicy), answer⟩] ∧
      (∀ e ∈ reads, e.call.ReadsSecret) ∧ ∀ d, answer = .ok d → created = some d := by
  obtain ⟨reads, secrets, t₂, rfl, hreads, hcreate⟩ := Attempt.yields_andThen_ok h
  obtain ⟨answer, t₃, rfl, hdone⟩ := yields_call_iff.mp hcreate
  refine ⟨reads, secrets, answer, ?_, hreads.only f.resolveSecrets_only, ?_⟩
  · cases (answer : Except ClusterError Deployment) with
    | ok d => rw [(yields_done_iff.mp hdone).1]
    | error e => rw [(yields_done_iff.mp hdone).1]
  · rintro d rfl
    have hok := (yields_done_iff.mp hdone).2
    cases hok
    rfl

theorem yields_createWorkload {cfg : ReconcileConfig} {f : FunctionObject}
    {owner : OwnerReference} {t : List Exchange} {created : Option Deployment}
    (h : (createWorkload cfg f owner).Yields t (.ok created)) :
    ∃ service t', t = service :: t' ∧ service.call = .createService (f.service owner) ∧
      (createDeployment cfg f owner).Yields t' (.ok created) := by
  obtain ⟨answer, t', rfl, hnext⟩ := yields_call_iff.mp h
  refine ⟨_, t', rfl, rfl, ?_⟩
  cases (answer : Except ClusterError Unit) with
  | ok u => exact hnext
  | error e =>
      by_cases he : e.isAlreadyExists = true
      · simpa only [he, if_true] using hnext
      · simp only [he] at hnext
        cases hnext

theorem yields_updateWorkload {cfg : ReconcileConfig} {f : FunctionObject}
    {owner : OwnerReference} {current updated : Deployment} {t : List Exchange}
    (h : (updateWorkload cfg f owner current).Yields t (.ok updated)) :
    ∃ reads secrets, ∃ answer : Except ClusterError Deployment,
      t = reads ++ [⟨.updateDeployment (replacement cfg f owner secrets current), answer⟩] ∧
      (∀ e ∈ reads, e.call.ReadsSecret) ∧ answer = .ok updated := by
  obtain ⟨reads, secrets, t₂, rfl, hreads, hupdate⟩ := Attempt.yields_andThen_ok h
  obtain ⟨answer, t₃, rfl, hdone⟩ := yields_call_iff.mp hupdate
  refine ⟨reads, secrets, answer, ?_, hreads.only f.resolveSecrets_only, ?_⟩
  · cases (answer : Except ClusterError Deployment) with
    | ok d => rw [(yields_done_iff.mp hdone).1]
    | error e => rw [(yields_done_iff.mp hdone).1]
  · cases (answer : Except ClusterError Deployment) with
    | ok d =>
        have hok := (yields_done_iff.mp hdone).2
        cases hok
        rfl
    | error e => cases (yields_done_iff.mp hdone).2

/-! ## The report -/

theorem reportIfWanted_only (cfg : ReconcileConfig) (f : FunctionObject) (d : Option Deployment) :
    (reportIfWanted cfg f d).Only Call.Reports := by
  unfold reportIfWanted
  cases d with
  | none => trivial
  | some d =>
      dsimp only
      split
      · unfold reportStatus
        split
        · trivial
        · refine ⟨trivial, fun answer => ?_⟩
          cases (answer : Except ClusterError Unit) <;> trivial
      · trivial

theorem concludeSync_only (cfg : ReconcileConfig) (f : FunctionObject) (outcome : Outcome)
    (d : Option Deployment) : (concludeSync cfg f outcome d).Only Call.Reports :=
  Attempt.only_andThen (reportIfWanted_only cfg f d) fun _ => ⟨trivial, fun _ => trivial⟩

/-! ## What is replaced -/

def Call.ReplacesNothing (c : Call) : Prop := ∀ d, c ≠ .updateDeployment d

theorem Call.ReadsSecret.replacesNothing {c : Call} (h : c.ReadsSecret) : c.ReplacesNothing := by
  rintro d rfl
  exact h

theorem Call.Reports.replacesNothing {c : Call} (h : c.Reports) : c.ReplacesNothing := by
  rintro d rfl
  exact h

theorem createDeployment_only (cfg : ReconcileConfig) (f : FunctionObject)
    (owner : OwnerReference) : (createDeployment cfg f owner).Only Call.ReplacesNothing := by
  refine Attempt.only_andThen
    (f.resolveSecrets_only.mono fun _ h => h.replacesNothing) fun secrets => ⟨?_, fun answer => ?_⟩
  · intro d h
    cases h
  · cases (answer : Except ClusterError Deployment) <;> trivial

theorem createWorkload_only (cfg : ReconcileConfig) (f : FunctionObject) (owner : OwnerReference) :
    (createWorkload cfg f owner).Only Call.ReplacesNothing := by
  refine ⟨?_, fun answer => ?_⟩
  · intro d h
    cases h
  · cases (answer : Except ClusterError Unit) with
    | ok u => exact createDeployment_only cfg f owner
    | error e =>
        dsimp only
        split
        · exact createDeployment_only cfg f owner
        · trivial

theorem updateWorkload_only (cfg : ReconcileConfig) (f : FunctionObject) (owner : OwnerReference)
    (current : Deployment) :
    (updateWorkload cfg f owner current).Only fun c => c.ReadsSecret ∨
      ∃ secrets, c = .updateDeployment (replacement cfg f owner secrets current) := by
  refine Attempt.only_andThen (f.resolveSecrets_only.mono fun _ h => .inl h)
    fun secrets => ⟨.inr ⟨secrets, rfl⟩, fun answer => ?_⟩
  cases (answer : Except ClusterError Deployment) <;> trivial

theorem syncOwned_only (cfg : ReconcileConfig) (f : FunctionObject) (owner : OwnerReference)
    (seen : Option Deployment) :
    (syncOwned cfg f owner seen).Only fun c =>
      c.ReplacesNothing ∨ ∃ secrets current, seen = some current ∧
        current.isControlledBy owner = true ∧
        c = .updateDeployment (replacement cfg f owner secrets current) := by
  have hconclude (outcome : Outcome) (d : Option Deployment) :=
    (concludeSync_only cfg f outcome d).mono fun _ h => h.replacesNothing
  unfold syncOwned
  split
  · refine Attempt.only_andThen ((createWorkload_only cfg f owner).mono fun _ h => .inl h)
      fun created => (hconclude .created created).mono fun _ h => .inl h
  · rename_i current
    split
    · exact ⟨.inl fun d h => (by cases h), fun _ => trivial⟩
    · rename_i howned
      have howned : current.isControlledBy owner = true := by simpa using howned
      split
      · refine Attempt.only_andThen ((updateWorkload_only cfg f owner current).mono ?_)
          fun updated => (hconclude .updated (some updated)).mono fun _ h => .inl h
        rintro c (h | ⟨secrets, rfl⟩)
        · exact .inl h.replacesNothing
        · exact .inr ⟨secrets, current, rfl, howned, rfl⟩
      · exact (hconclude .unchanged (some current)).mono fun _ h => .inl h

/-- If the call replaces a Deployment, then the one that was seen, by what is rendered for the
function under the key at the version that was seen; and the function controls it. -/
def Call.Permitted (cfg : ReconcileConfig) (seen : Observed) (key : ResourceKey) (c : Call) :
    Prop :=
  ∀ d, c = .updateDeployment d → ∃ f owner secrets current,
    seen.function? key = some f ∧ f.spec.name.isEmpty = false ∧ f.ownerReference? = some owner ∧
    seen.deployment? ⟨key.ns, f.spec.name⟩ = some current ∧ current.isControlledBy owner = true ∧
    d = replacement cfg f owner secrets current

theorem sync_cases (cfg : ReconcileConfig) (seen : Observed) (key : ResourceKey) :
    sync cfg seen key = .done (.ok .skipped) ∨
      ∃ f owner, seen.function? key = some f ∧ f.spec.name.isEmpty = false ∧
        f.ownerReference? = some owner ∧
        sync cfg seen key = syncOwned cfg f owner (seen.deployment? ⟨key.ns, f.spec.name⟩) := by
  unfold sync
  split
  · exact .inl rfl
  · rename_i f hf
    split
    · exact .inl rfl
    · rename_i hname
      split
      · exact .inl rfl
      · rename_i owner howner
        exact .inr ⟨f, owner, hf, by simpa using hname, howner, rfl⟩

/-- Whatever the answers, a reconcile replaces no Deployment but the one that it saw. -/
theorem sync_only (cfg : ReconcileConfig) (seen : Observed) (key : ResourceKey) :
    (sync cfg seen key).Only (Call.Permitted cfg seen key) := by
  rcases sync_cases cfg seen key with hskip | ⟨f, owner, hf, hname, howner, hsync⟩
  · rw [hskip]
    trivial
  · rw [hsync]
    refine (syncOwned_only cfg f owner _).mono ?_
    rintro c (h | ⟨secrets, current, hcurrent, howned, rfl⟩) d hd
    · exact absurd hd (h d)
    · cases hd
      exact ⟨f, owner, secrets, current, hf, hname, howner, hcurrent, howned, rfl⟩

end FaasOperator
