/-
# `FaasOperator.Proofs.Reconcile.Sends` — what a reconcile sends

Every Deployment that it sends is made for the function that it read (`sync_sends`).  If there is
one to create or to update, then a reconcile whose calls do not fail cannot miss to send it
(`sync_creates`, `sync_updates`); otherwise it only publishes (`sync_publishes`).
-/
import FaasOperator.Proofs.Index.Cache
import FaasOperator.Proofs.Reconcile.Decision
import FaasOperator.Proofs.Workload.Change

namespace FaasOperator

open Plan

/-- The Deployment that a call sends, to create it or to replace one. -/
def Call.sent? : Call → Option Deployment
  | .createDeployment d | .updateDeployment d => some d
  | .createService _ | .getSecret _ _ | .patchStatus _ _ _ | .publish _ => none

/-- The Deployment goes by the function's declared name, in its namespace, carries its declaration,
and is controlled by it. -/
structure Deployment.MadeFor (d : Deployment) (f : FunctionObject) (owner : OwnerReference) : Prop
    where
  ns : d.metadata.ns = f.metadata.ns
  name : d.metadata.name = some f.spec.name
  declaration : d.metadata.annotation? specAnnotation = some f.spec.render
  controller : d.metadata.controller? = some owner

namespace Deployment.MadeFor

variable {d : Deployment} {f : FunctionObject} {owner : OwnerReference}

theorem key? (h : d.MadeFor f owner) {key : ResourceKey} (hkey : f.metadata.key? = some key)
    (hname : f.spec.name.isEmpty = false) : d.metadata.key? = some ⟨key.ns, f.spec.name⟩ := by
  obtain ⟨hns, -, hempty, -⟩ := ObjectMeta.key?_eq_some_iff.mp hkey
  exact ObjectMeta.key?_eq_some_iff.mpr ⟨h.ns.trans hns, h.name, hempty, hname⟩

theorem needsUpdate (h : d.MadeFor f owner) : FaasOperator.needsUpdate f.spec d = false := by
  rw [needsUpdate_of_declared h.declaration, changedFields_self]
  rfl

end Deployment.MadeFor

/-- A function that is cached under its own key and has a uid can own something. -/
theorem FunctionObject.exists_ownerReference {f : FunctionObject} {key : ResourceKey} {uid : String}
    (hkey : f.metadata.key? = some key) (huid : f.metadata.uid = some uid) :
    ∃ owner, f.ownerReference? = some owner := by
  obtain ⟨-, hname, -⟩ := ObjectMeta.key?_eq_some_iff.mp hkey
  unfold FunctionObject.ownerReference?
  rw [hname, huid]
  exact ⟨_, rfl⟩

theorem FunctionObject.madeFor_deployment {f : FunctionObject} {owner : OwnerReference}
    (howner : f.ownerReference? = some owner) (secrets : Secrets) (policy : PullPolicy) :
    (f.deployment owner secrets policy).MadeFor f owner where
  ns := by
    rw [f.metadata_deployment]
    rfl
  name := by
    rw [f.metadata_deployment]
    rfl
  declaration := f.annotation_deployment owner secrets policy
  controller := by
    obtain ⟨name, uid, -, -, rfl⟩ := FunctionObject.ownerReference?_eq_some howner
    rw [f.metadata_deployment]
    rfl

theorem madeFor_replacement {f : FunctionObject} {owner : OwnerReference}
    (howner : f.ownerReference? = some owner) (cfg : ReconcileConfig) (secrets : Secrets)
    (current : Deployment) : (replacement cfg f owner secrets current).MadeFor f owner :=
  have h := f.madeFor_deployment howner secrets cfg.imagePullPolicy
  ⟨h.ns, h.name, h.declaration, h.controller⟩

/-! ## What is sent -/

/-- What the call sends, if it sends a Deployment, is made for this function. -/
def Call.SendsFor (f : FunctionObject) (owner : OwnerReference) (c : Call) : Prop :=
  ∀ d, c.sent? = some d → d.MadeFor f owner

theorem Call.ReadsSecret.sendsFor {c : Call} (h : c.ReadsSecret) (f : FunctionObject)
    (owner : OwnerReference) : c.SendsFor f owner := by
  intro d hd
  cases c with
  | getSecret ns name => cases hd
  | createService _ | createDeployment _ | updateDeployment _ | patchStatus _ _ _ | publish _ =>
      exact absurd h id

theorem Call.Reports.sendsFor {c : Call} (h : c.Reports) (f : FunctionObject)
    (owner : OwnerReference) : c.SendsFor f owner := by
  intro d hd
  cases c with
  | patchStatus _ _ _ | publish _ => cases hd
  | createService _ | createDeployment _ | updateDeployment _ | getSecret _ _ => exact absurd h id

section Sends

variable {f : FunctionObject} {owner : OwnerReference}

theorem createDeployment_sends (cfg : ReconcileConfig) (howner : f.ownerReference? = some owner) :
    (createDeployment cfg f owner).Only (Call.SendsFor f owner) := by
  refine Attempt.only_andThen (f.resolveSecrets_only.mono fun _ h => h.sendsFor f owner)
    fun secrets => ⟨?_, fun answer => ?_⟩
  · rintro d hd
    cases hd
    exact f.madeFor_deployment howner secrets cfg.imagePullPolicy
  · cases (answer : Except ClusterError Deployment) <;> trivial

theorem createWorkload_sends (cfg : ReconcileConfig) (howner : f.ownerReference? = some owner) :
    (createWorkload cfg f owner).Only (Call.SendsFor f owner) := by
  refine ⟨fun d hd => (by cases hd), fun answer => ?_⟩
  cases (answer : Except ClusterError Unit) with
  | ok u => exact createDeployment_sends cfg howner
  | error e =>
      dsimp only
      split
      · exact createDeployment_sends cfg howner
      · trivial

theorem updateWorkload_sends (cfg : ReconcileConfig) (howner : f.ownerReference? = some owner)
    (current : Deployment) : (updateWorkload cfg f owner current).Only (Call.SendsFor f owner) := by
  refine (updateWorkload_only cfg f owner current).mono ?_
  rintro c (h | ⟨secrets, rfl⟩)
  · exact h.sendsFor f owner
  · rintro d hd
    cases hd
    exact madeFor_replacement howner cfg secrets current

theorem syncOwned_sends (cfg : ReconcileConfig) (howner : f.ownerReference? = some owner)
    (current : Option Deployment) :
    (syncOwned cfg f owner current).Only (Call.SendsFor f owner) := by
  have hconclude (outcome : Outcome) (d : Option Deployment) :=
    (concludeSync_only cfg f outcome d).mono fun _ h => h.sendsFor f owner
  unfold syncOwned
  split
  · exact Attempt.only_andThen (createWorkload_sends cfg howner) fun d => hconclude .created d
  · rename_i current
    split
    · exact ⟨fun d hd => (by cases hd), fun _ => trivial⟩
    · split
      · exact Attempt.only_andThen (updateWorkload_sends cfg howner current)
          fun d => hconclude .updated (some d)
      · exact hconclude .unchanged (some current)

end Sends

/-- What the call sends, if it sends a Deployment, is made for the function that was read, which
names it. -/
def Call.SendsSeen (f? : Option FunctionObject) (c : Call) : Prop :=
  ∀ d, c.sent? = some d → ∃ f owner, f? = some f ∧ f.spec.name.isEmpty = false ∧
    f.ownerReference? = some owner ∧ d.MadeFor f owner

/-- Whatever the answers, a reconcile sends nothing but what is made for the function that it read.
-/
theorem sync_sends (cfg : ReconcileConfig) (seen : Observed) (key : ResourceKey) :
    (sync cfg seen key).Only (Call.SendsSeen (seen.function? key)) := by
  rcases sync_cases cfg seen key with hskip | ⟨f, owner, hf, hname, howner, hsync⟩
  · rw [hskip]
    trivial
  · rw [hsync]
    refine (syncOwned_sends cfg howner _).mono fun c hc d hd => ?_
    exact ⟨f, owner, hf, hname, howner, hc d hd⟩

/-! ## What is not missed -/

/-- Why a call failed, if it did. -/
def Call.error? : (c : Call) → c.Answer → Option ClusterError
  | .createService _, answer => failure? answer
  | .createDeployment _, answer => failure? answer
  | .updateDeployment _, answer => failure? answer
  | .getSecret _ _, answer => failure? answer
  | .patchStatus _ _ _, answer => failure? answer
  | .publish _, _ => none
where
  /-- The error, if it is one. -/
  failure? {α : Type} : Except ClusterError α → Option ClusterError
    | .ok _ => none
    | .error e => some e

def Call.Creates : Call → Prop
  | .createService _ | .createDeployment _ => True
  | .updateDeployment _ | .getSecret _ _ | .patchStatus _ _ _ | .publish _ => False

/-- The call did not fail, or only because what was to be made is there already. -/
def Call.Smooth (c : Call) (answer : c.Answer) : Prop :=
  ∀ e, c.error? answer = some e → c.Creates ∧ e.isAlreadyExists = true

section Meets

variable {W : Call → Prop} {f : FunctionObject} {owner : OwnerReference}

theorem meets_resolveSecrets (ns : String) (names : List String) (secrets : Secrets) :
    (resolveSecrets ns names secrets).Meets Call.Smooth W fun r => ∃ s, r = .ok s := by
  induction names generalizing secrets with
  | nil => exact ⟨secrets, rfl⟩
  | cons name names ih =>
      rw [resolveSecrets]
      split
      · exact ih secrets
      · refine .inr fun answer hsmooth => ?_
        cases (answer : Except ClusterError Secret) with
        | ok s => exact ih _
        | error e => exact absurd (hsmooth e rfl).1 id

theorem meets_resolveSecrets_andThen {α : Type} {g : Secrets → Attempt α}
    {L : Except ReconcileError α → Prop} (hg : ∀ secrets, (g secrets).Meets Call.Smooth W L) :
    (Attempt.andThen f.resolveSecrets g).Meets Call.Smooth W L := by
  refine (meets_resolveSecrets _ _ _).andThen ?_
  rintro _ ⟨secrets, rfl⟩
  exact hg secrets

theorem createWorkload_meets (cfg : ReconcileConfig)
    (hW : ∀ secrets, W (.createDeployment (f.deployment owner secrets cfg.imagePullPolicy))) :
    (createWorkload cfg f owner).Meets Call.Smooth W fun _ => False := by
  have hcreate : (createDeployment cfg f owner).Meets Call.Smooth W fun _ => False :=
    meets_resolveSecrets_andThen fun secrets => .inl (hW secrets)
  refine .inr fun answer hsmooth => ?_
  cases (answer : Except ClusterError Unit) with
  | ok u => exact hcreate
  | error e =>
      have hexists : e.isAlreadyExists = true := (hsmooth e rfl).2
      simp only [hexists, if_true]
      exact hcreate

theorem updateWorkload_meets (cfg : ReconcileConfig) (current : Deployment)
    (hW : ∀ secrets, W (.updateDeployment (replacement cfg f owner secrets current))) :
    (updateWorkload cfg f owner current).Meets Call.Smooth W fun _ => False :=
  meets_resolveSecrets_andThen fun secrets => .inl (hW secrets)

end Meets

section Sync

variable {cfg : ReconcileConfig} {seen : Observed} {key : ResourceKey} {f : FunctionObject}
  {owner : OwnerReference}

theorem sync_eq_syncOwned (hf : seen.function? key = some f) (hname : f.spec.name.isEmpty = false)
    (howner : f.ownerReference? = some owner) :
    sync cfg seen key = syncOwned cfg f owner (seen.deployment? ⟨key.ns, f.spec.name⟩) := by
  simp only [sync, hf, hname, howner]
  rfl

/-- A creation that succeeded sent a Deployment, and the call did not fail but because there was one
already. -/
theorem sent_of_yields_createWorkload {t : List Exchange} {created : Option Deployment}
    (howner : f.ownerReference? = some owner)
    (h : (createWorkload cfg f owner).Yields t (.ok created)) :
    ∃ d, ∃ answer : Except ClusterError Deployment, ⟨.createDeployment d, answer⟩ ∈ t ∧
      (Call.createDeployment d).Smooth answer ∧ d.MadeFor f owner := by
  obtain ⟨service, t', rfl, -, hcreate⟩ := yields_createWorkload h
  obtain ⟨reads, secrets, t₂, rfl, -, hcall⟩ := Attempt.yields_andThen_ok hcreate
  obtain ⟨answer, t₃, rfl, hdone⟩ := yields_call_iff.mp hcall
  refine ⟨_, answer, ?_, ?_, f.madeFor_deployment howner secrets cfg.imagePullPolicy⟩
  · exact List.mem_cons_of_mem _ (List.mem_append_right _ List.mem_cons_self)
  · intro e he
    cases (answer : Except ClusterError Deployment) with
    | ok d => cases he
    | error e' =>
        cases he
        refine ⟨trivial, ?_⟩
        cases hexists : e.isAlreadyExists with
        | true => rfl
        | false =>
            simp only [hexists] at hdone
            cases hdone

theorem sync_creates (hf : seen.function? key = some f) (hkey : f.metadata.key? = some key)
    (hname : f.spec.name.isEmpty = false) (howner : f.ownerReference? = some owner)
    (hnone : seen.deployment? ⟨key.ns, f.spec.name⟩ = none) :
    (sync cfg seen key).Meets Call.Smooth
      (fun c => ∃ d, c = .createDeployment d ∧ d.metadata.key? = some ⟨key.ns, f.spec.name⟩)
      fun _ => False := by
  rw [sync_eq_syncOwned hf hname howner, hnone]
  refine (createWorkload_meets cfg fun secrets => ⟨_, rfl, ?_⟩).andThen fun _ h => h.elim
  exact (f.madeFor_deployment howner secrets cfg.imagePullPolicy).key? hkey hname

theorem sync_updates (hf : seen.function? key = some f) (hkey : f.metadata.key? = some key)
    (hname : f.spec.name.isEmpty = false) (howner : f.ownerReference? = some owner)
    {current : Deployment} (hcurrent : seen.deployment? ⟨key.ns, f.spec.name⟩ = some current)
    (howned : f.controls current = true) (hupdate : needsUpdate f.spec current = true) :
    (sync cfg seen key).Meets Call.Smooth
      (fun c => ∃ d, c = .updateDeployment d ∧ d.metadata.key? = some ⟨key.ns, f.spec.name⟩)
      fun _ => False := by
  rw [f.controls_eq_isControlledBy howner] at howned
  rw [sync_eq_syncOwned hf hname howner, hcurrent]
  simp only [syncOwned, howned, hupdate, Bool.not_true, Bool.false_eq_true, if_false, if_true]
  refine (updateWorkload_meets cfg current fun secrets => ⟨_, rfl, ?_⟩).andThen fun _ h => h.elim
  exact (madeFor_replacement howner cfg secrets current).key? hkey hname

def Call.Publishes (c : Call) : Prop := ∃ notice, c = .publish notice

/-- The Deployment of the declared name is there, and needs no update if the function controls it.
-/
def FunctionObject.InLine (f : FunctionObject) (current : Option Deployment) : Prop :=
  ∃ d, current = some d ∧ (f.controls d = true → needsUpdate f.spec d = false)

theorem sync_publishes (hcfg : cfg.updateStatus = false)
    (hline : ∀ f owner, seen.function? key = some f → f.spec.name.isEmpty = false →
      f.ownerReference? = some owner → f.InLine (seen.deployment? ⟨key.ns, f.spec.name⟩)) :
    (sync cfg seen key).Only Call.Publishes := by
  rcases sync_cases cfg seen key with hskip | ⟨f, owner, hf, hname, howner, hsync⟩
  · rw [hskip]
    trivial
  · obtain ⟨d, hd, hcurrent⟩ := hline f owner hf hname howner
    rw [f.controls_eq_isControlledBy howner] at hcurrent
    rw [hsync, hd]
    unfold syncOwned
    dsimp only
    split
    · exact ⟨⟨_, rfl⟩, fun _ => trivial⟩
    · rename_i howned
      have hsame : needsUpdate f.spec d = false := hcurrent (by simpa using howned)
      rw [hsame]
      have hreport : reportIfWanted cfg f (some d) = .done (.ok ()) := by
        simp only [reportIfWanted, hcfg]
        rfl
      refine Attempt.only_andThen ?_ fun _ => ⟨⟨_, rfl⟩, fun _ => trivial⟩
      rw [hreport]
      trivial

end Sync

end FaasOperator
