/-
# `FaasOperator.Proofs.Reconcile.Converged` — a reconcile that wrote leaves nothing to do

## What is proved

Suppose that a reconcile has succeeded and the cluster took the Deployment that it sent.  Once that
is observed as it was stored, with the annotations and owner references that were sent, and the
function with the same declaration, name and uid and with the status that was reported, the next
reconcile is this plan and no other (`sync_settled_of_stored`):

    .call (.publish (syncedNotice f')) fun () => .done (.ok .unchanged)

Whatever else the cluster may have put on the Deployment, labels, status or defaults of its own,
does not matter.

## How

The function's owner reference is recognised, the declaration is read back from the annotation
without a difference, and the status is the one that was reported (`statusAfter`).
-/
import FaasOperator.Proofs.Reconcile.Calls
import FaasOperator.Proofs.Workload.Change

namespace FaasOperator

open Plan

/-! ## What was written -/

/-- The cluster took the Deployment that was sent, created or replaced, and returned the stored one.
-/
def Exchange.Stores (sent stored : Deployment) : Exchange → Prop
  | ⟨.createDeployment d, answer⟩ => d = sent ∧ answer = Except.ok stored
  | ⟨.updateDeployment d, answer⟩ => d = sent ∧ answer = Except.ok stored
  | _ => False

/-- The status that the exchange gives the function, if it gives it one. -/
def Exchange.status? : Exchange → Option FunctionStatus
  | ⟨.patchStatus _ _ status, answer⟩ =>
      match (answer : Except ClusterError Unit) with
      | .ok () => some status
      | .error _ => none
  | _ => none

/-- The function's status after the exchanges. -/
def statusAfter (status : Option FunctionStatus) (t : List Exchange) : Option FunctionStatus :=
  t.foldl (fun status e => e.status?.or status) status

theorem Exchange.Stores.call {e : Exchange} {sent stored : Deployment} (h : e.Stores sent stored) :
    e.call = .createDeployment sent ∨ e.call = .updateDeployment sent := by
  obtain ⟨c, answer⟩ := e
  cases c with
  | createDeployment d => exact .inl (congrArg Call.createDeployment h.1)
  | updateDeployment d => exact .inr (congrArg Call.updateDeployment h.1)
  | createService _ | getSecret _ _ | patchStatus _ _ _ | publish _ => exact absurd h id

theorem not_stores_of_readsSecret {e : Exchange} (h : e.call.ReadsSecret)
    (sent stored : Deployment) : ¬e.Stores sent stored := by
  intro hs
  rcases hs.call with hc | hc <;> rw [hc] at h <;> exact h

theorem not_stores_of_reports {e : Exchange} (h : e.call.Reports) (sent stored : Deployment) :
    ¬e.Stores sent stored := by
  intro hs
  rcases hs.call with hc | hc <;> rw [hc] at h <;> exact h

/-- The exchange says nothing about the function's status. -/
def Exchange.Silent (e : Exchange) : Prop := ∀ ns name status, e.call ≠ .patchStatus ns name status

theorem Exchange.Silent.status? {e : Exchange} (h : e.Silent) : e.status? = none := by
  obtain ⟨c, answer⟩ := e
  cases c with
  | patchStatus ns name status => exact absurd rfl (h ns name status)
  | createService _ | createDeployment _ | updateDeployment _ | getSecret _ _ | publish _ => rfl

theorem silent_of_readsSecret {e : Exchange} (h : e.call.ReadsSecret) : e.Silent := by
  intro ns name status hc
  rw [hc] at h
  exact h

theorem statusAfter_append {t₁ : List Exchange} (h : ∀ e ∈ t₁, e.Silent)
    (status : Option FunctionStatus) (t₂ : List Exchange) :
    statusAfter status (t₁ ++ t₂) = statusAfter status t₂ := by
  induction t₁ with
  | nil => rfl
  | cons e t₁ ih =>
      have htl := ih fun e he => h e (List.mem_cons_of_mem _ he)
      rw [← htl]
      simp only [statusAfter, List.cons_append, List.foldl_cons,
        (h e List.mem_cons_self).status?, Option.none_or]

theorem stores_reads_append {reads : List Exchange} {e : Exchange}
    (hreads : ∀ e ∈ reads, e.call.ReadsSecret) (he : e.Silent) :
    (∀ e' ∈ reads ++ [e], e'.Silent) ∧
    ∀ e' ∈ reads ++ [e], ∀ sent stored, e'.Stores sent stored → e.Stores sent stored := by
  constructor
  · intro e' hmem
    rcases List.mem_append.mp hmem with hmem | hmem
    · exact silent_of_readsSecret (hreads e' hmem)
    · rw [List.mem_singleton.mp hmem]
      exact he
  · intro e' hmem sent stored hs
    rcases List.mem_append.mp hmem with hmem | hmem
    · exact absurd hs (not_stores_of_readsSecret (hreads e' hmem) sent stored)
    · rw [← List.mem_singleton.mp hmem]
      exact hs

/-! ## The parts of a reconcile that writes -/

/-- What is sent for a function: its declaration and its owner reference are written on it. -/
def Deployment.IsFor (sent : Deployment) (f : FunctionObject) (owner : OwnerReference) : Prop :=
  sent.metadata.annotations = some f.spec.workloadAnnotations ∧
    sent.metadata.ownerReferences = some [owner]

theorem FunctionObject.isFor_deployment (f : FunctionObject) (owner : OwnerReference)
    (secrets : Secrets) (policy : PullPolicy) :
    (f.deployment owner secrets policy).IsFor f owner := by
  rw [Deployment.IsFor, f.metadata_deployment]
  exact ⟨rfl, rfl⟩

theorem isFor_replacement (cfg : ReconcileConfig) (f : FunctionObject) (owner : OwnerReference)
    (secrets : Secrets) (current : Deployment) :
    (replacement cfg f owner secrets current).IsFor f owner :=
  f.isFor_deployment owner secrets cfg.imagePullPolicy

/-- What a creation stored is what it brought back, and nothing is said about the status. -/
theorem stores_createWorkload {cfg : ReconcileConfig} {f : FunctionObject}
    {owner : OwnerReference} {t : List Exchange} {created : Option Deployment}
    (h : (createWorkload cfg f owner).Yields t (.ok created)) :
    (∀ e ∈ t, e.Silent) ∧
    ∀ e ∈ t, ∀ sent stored, e.Stores sent stored → created = some stored ∧ sent.IsFor f owner := by
  obtain ⟨service, t', rfl, hservice, hcreate⟩ := yields_createWorkload h
  obtain ⟨reads, secrets, answer, rfl, hreads, hcreated⟩ := yields_createDeployment hcreate
  have ⟨hsilent, hlast⟩ := stores_reads_append hreads
    (e := ⟨.createDeployment (f.deployment owner secrets cfg.imagePullPolicy), answer⟩)
    fun ns name status hc => by cases hc
  constructor
  · intro e he
    rcases List.mem_cons.mp he with rfl | he
    · intro ns name status hc
      rw [hservice] at hc
      cases hc
    · exact hsilent e he
  · intro e he sent stored hs
    rcases List.mem_cons.mp he with rfl | he
    · rcases hs.call with hc | hc <;> rw [hservice] at hc <;> cases hc
    · obtain ⟨rfl, hok⟩ := hlast e he sent stored hs
      exact ⟨hcreated stored hok, f.isFor_deployment owner secrets cfg.imagePullPolicy⟩

theorem stores_updateWorkload {cfg : ReconcileConfig} {f : FunctionObject}
    {owner : OwnerReference} {current updated : Deployment} {t : List Exchange}
    (h : (updateWorkload cfg f owner current).Yields t (.ok updated)) :
    (∀ e ∈ t, e.Silent) ∧
    ∀ e ∈ t, ∀ sent stored, e.Stores sent stored → updated = stored ∧ sent.IsFor f owner := by
  obtain ⟨reads, secrets, answer, rfl, hreads, hupdated⟩ := yields_updateWorkload h
  have ⟨hsilent, hlast⟩ := stores_reads_append hreads
    (e := ⟨.updateDeployment (replacement cfg f owner secrets current), answer⟩)
    fun ns name status hc => by cases hc
  refine ⟨hsilent, fun e he sent stored hs => ?_⟩
  obtain ⟨rfl, hok⟩ := hlast e he sent stored hs
  have : Except.ok updated = Except.ok stored := hupdated.symm.trans hok
  cases this
  exact ⟨rfl, isFor_replacement cfg f owner secrets current⟩

/-- With reports wanted, the status says how many replicas of the Deployment are available. -/
theorem statusAfter_concludeSync {cfg : ReconcileConfig} {f : FunctionObject}
    {outcome o : Outcome} {d : Deployment} {t : List Exchange} (hcfg : cfg.updateStatus = true)
    (h : (concludeSync cfg f outcome (some d)).Yields t (.ok o)) :
    statusAfter f.status t = some ⟨d.availableReplicas⟩ := by
  obtain ⟨t₁, u, t₂, rfl, hreport, hpublish⟩ := Attempt.yields_andThen_ok h
  obtain ⟨answer, t₃, rfl, hdone⟩ := yields_call_iff.mp hpublish
  obtain ⟨rfl, -⟩ := yields_done_iff.mp hdone
  simp only [reportIfWanted, hcfg, if_true, reportStatus] at hreport
  split at hreport
  · rename_i hsame
    obtain ⟨rfl, -⟩ := yields_done_iff.mp hreport
    exact hsame
  · obtain ⟨answer, t₄, rfl, hpatch⟩ := yields_call_iff.mp hreport
    cases answer with
    | error e => cases hpatch
    | ok u =>
        obtain ⟨rfl, -⟩ := yields_done_iff.mp hpatch
        rfl

/-- A reconcile of a function whose workload was written: the write is its own, and the status is
what the write brought back. -/
theorem stores_syncOwned {cfg : ReconcileConfig} {f : FunctionObject} {owner : OwnerReference}
    {current : Option Deployment} {t : List Exchange} {o : Outcome} {sent stored : Deployment}
    (h : (syncOwned cfg f owner current).Yields t (.ok o)) (hs : ∃ e ∈ t, e.Stores sent stored) :
    sent.IsFor f owner ∧
      (cfg.updateStatus = true → statusAfter f.status t = some ⟨stored.availableReplicas⟩) := by
  obtain ⟨e, he, hstores⟩ := hs
  -- what is reported stores nothing, so the write is in the part before
  have hreports {outcome : Outcome} {d : Option Deployment} {t' : List Exchange}
      (h' : (concludeSync cfg f outcome d).Yields t' (.ok o)) : e ∉ t' := fun hmem =>
    not_stores_of_reports (h'.only (concludeSync_only cfg f outcome d) e hmem) sent stored hstores
  unfold syncOwned at h
  split at h
  · obtain ⟨t₁, created, t₂, rfl, hcreate, hconclude⟩ := Attempt.yields_andThen_ok h
    obtain ⟨hquiet, hwrite⟩ := stores_createWorkload hcreate
    have hmem : e ∈ t₁ := (List.mem_append.mp he).resolve_right (hreports hconclude)
    obtain ⟨rfl, hfor⟩ := hwrite e hmem sent stored hstores
    refine ⟨hfor, fun hcfg => ?_⟩
    rw [statusAfter_append hquiet]
    exact statusAfter_concludeSync hcfg hconclude
  · rename_i current
    split at h
    · obtain ⟨answer, t', rfl, hdone⟩ := yields_call_iff.mp h
      obtain ⟨rfl, -⟩ := yields_done_iff.mp hdone
      rw [List.mem_singleton] at he
      subst he
      rcases hstores.call with hc | hc <;> cases hc
    · split at h
      · obtain ⟨t₁, updated, t₂, rfl, hupdate, hconclude⟩ := Attempt.yields_andThen_ok h
        obtain ⟨hquiet, hwrite⟩ := stores_updateWorkload hupdate
        have hmem : e ∈ t₁ := (List.mem_append.mp he).resolve_right (hreports hconclude)
        obtain ⟨rfl, hfor⟩ := hwrite e hmem sent stored hstores
        refine ⟨hfor, fun hcfg => ?_⟩
        rw [statusAfter_append hquiet]
        exact statusAfter_concludeSync hcfg hconclude
      · exact absurd he (hreports h)

/-! ## The reconcile after it -/

theorem isControlledBy_ownerReference {f : FunctionObject} {owner : OwnerReference}
    (h : f.ownerReference? = some owner) {d : Deployment}
    (hd : d.metadata.ownerReferences = some [owner]) : d.isControlledBy owner = true := by
  obtain ⟨name, uid, -, -, rfl⟩ := FunctionObject.ownerReference?_eq_some h
  simp [Deployment.isControlledBy, ObjectMeta.controller?, controllerOf?, hd]

/-- Where the Deployment is in line and the status is the one to report, nothing is left to do but
to say so. -/
theorem syncOwned_of_inLine {cfg : ReconcileConfig} {f : FunctionObject} {owner : OwnerReference}
    {d : Deployment} (howned : d.isControlledBy owner = true)
    (hline : needsUpdate f.spec d = false)
    (hstatus : cfg.updateStatus = true → f.status = some ⟨d.availableReplicas⟩) :
    syncOwned cfg f owner (some d) =
      .call (.publish (syncedNotice f)) fun () => .done (.ok .unchanged) := by
  have hreport : reportIfWanted cfg f (some d) = .done (.ok ()) := by
    by_cases hcfg : cfg.updateStatus = true
    · simp only [reportIfWanted, reportStatus, hcfg, if_true, hstatus hcfg]
    · simp only [reportIfWanted, hcfg]
      rfl
  simp only [syncOwned, howned, hline, concludeSync, hreport]
  rfl

/-- A function whose reconcile wrote its Deployment is settled.  Once the Deployment is observed as
it was stored, with the annotations and owner references that were sent, and the function with the
status that was reported, a reconcile asks nothing of the cluster: it publishes its success, and
that is all. -/
theorem sync_settled_of_stored {cfg : ReconcileConfig} {seen seen' : Observed} {key : ResourceKey}
    {f f' : FunctionObject} {t : List Exchange} {o : Outcome} {sent stored : Deployment}
    (hf : seen.function? key = some f) (ht : (sync cfg seen key).Yields t (.ok o))
    (hstores : ∃ e ∈ t, e.Stores sent stored)
    (hannotations : stored.metadata.annotations = sent.metadata.annotations)
    (howners : stored.metadata.ownerReferences = sent.metadata.ownerReferences)
    (hf' : seen'.function? key = some f') (hspec : f'.spec = f.spec)
    (hname : f'.metadata.name = f.metadata.name) (huid : f'.metadata.uid = f.metadata.uid)
    (hstatus : cfg.updateStatus = true → f'.status = statusAfter f.status t)
    (hd : seen'.deployment? ⟨key.ns, f.spec.name⟩ = some stored) :
    sync cfg seen' key =
      .call (.publish (syncedNotice f')) fun () => .done (.ok .unchanged) := by
  simp only [sync, hf] at ht
  split at ht
  · obtain ⟨rfl, -⟩ := yields_done_iff.mp ht
    exact absurd hstores (by simp)
  · rename_i hnamed
    split at ht
    · obtain ⟨rfl, -⟩ := yields_done_iff.mp ht
      exact absurd hstores (by simp)
    · rename_i owner howner
      obtain ⟨⟨hsent, hrefs⟩, hreported⟩ := stores_syncOwned ht hstores
      have howner' : f'.ownerReference? = some owner := by
        rw [← howner, FunctionObject.ownerReference?, FunctionObject.ownerReference?, hname, huid]
      have howned : stored.isControlledBy owner = true :=
        isControlledBy_ownerReference howner (howners.trans hrefs)
      have hheld : stored.metadata.annotation? specAnnotation = some f.spec.render := by
        rw [ObjectMeta.annotation?, hannotations, hsent]
        exact f.spec.get?_workloadAnnotations
      have hline : needsUpdate f'.spec stored = false := by
        rw [needsUpdate_of_declared hheld, hspec, changedFields_self]
        rfl
      have hreport : cfg.updateStatus = true → f'.status = some ⟨stored.availableReplicas⟩ :=
        fun hcfg => (hstatus hcfg).trans (hreported hcfg)
      simp only [sync, hf', hspec, hnamed, howner', hd]
      exact syncOwned_of_inLine howned hline hreport

/-- A function with a Secret, and with annotations of its own under the controller's keys. -/
def annotatedFunction : FunctionObject :=
  ⟨{ ObjectMeta.empty with name := some "echo", ns := some "openfaas-fn", uid := some "8f3c5e1a" },
    { FunctionSpec.empty with
      name := "echo"
      annotations := some ((StringMap.empty.insert specAnnotation "mine").insert scrapeAnnotation "true")
      secrets := some ["db"] },
    none⟩

def annotatedOwner : OwnerReference :=
  ⟨FunctionObject.apiVersion, FunctionObject.kind, "echo", "8f3c5e1a", some true, some true⟩

def annotatedWorkload : Deployment :=
  annotatedFunction.deployment annotatedOwner
    (.ofList [("db", ⟨.empty, some "Opaque", some (.ofList [("password", [])]), ∅⟩)]) .always

/-- The same as the cluster stores it, with a version and one replica running. -/
def storedWorkload : Deployment :=
  { annotatedWorkload with
    metadata := { annotatedWorkload.metadata with resourceVersion := some "7" }
    status := some ⟨some 1, ∅⟩ }

/-- The reconcile that creates it. -/
def creation : List Exchange := [
  ⟨.createService (annotatedFunction.service annotatedOwner), Except.ok ()⟩,
  ⟨.getSecret "openfaas-fn" "db",
    Except.ok ⟨.empty, some "Opaque", some (.ofList [("password", [])]), ∅⟩⟩,
  ⟨.createDeployment annotatedWorkload, Except.ok storedWorkload⟩,
  ⟨.patchStatus "openfaas-fn" "echo" ⟨1⟩, Except.ok ()⟩,
  ⟨.publish (syncedNotice annotatedFunction), ()⟩]

theorem sync_settled_created :
    (sync ⟨.always, true⟩ ⟨fun _ => some annotatedFunction, fun _ => none⟩
      ⟨"openfaas-fn", "echo"⟩).Yields creation (.ok .created) ∧
    sync ⟨.always, true⟩
      ⟨fun _ => some { annotatedFunction with status := some ⟨1⟩ }, fun _ => some storedWorkload⟩
      ⟨"openfaas-fn", "echo"⟩ =
    .call (.publish (syncedNotice { annotatedFunction with status := some ⟨1⟩ })) fun () =>
      .done (.ok .unchanged) := by
  have hcreation : (sync ⟨.always, true⟩ ⟨fun _ => some annotatedFunction, fun _ => none⟩
      ⟨"openfaas-fn", "echo"⟩).Yields creation (.ok .created) :=
    .call _ (.call _ (.call _ (.call _ (.call _ (.done _)))))
  refine ⟨hcreation, sync_settled_of_stored (f := annotatedFunction) rfl hcreation
    ⟨_, List.mem_cons_of_mem _ (List.mem_cons_of_mem _ List.mem_cons_self), rfl, rfl⟩
    rfl rfl rfl rfl rfl rfl (fun _ => rfl) rfl⟩

end FaasOperator
