/-
# `FaasOperator.Proofs.Reconcile.Confined` — where the calls of a reconcile go

## What is proved

For every key, every reachable index, whatever Deployments are cached and whatever the cluster
answers, each call that a reconcile of the key can come to (`sync_confined`):

* stays in the key's namespace;
* writes only what goes by the name that the cached function declares and has that function as its
  one owner, reads only Secrets that the function declares, and reports the status of the function
  under the key;
* comes with a function that says its namespace, its name and the name of its workload.

## How

The namespace is taken from the key in some places and from the function's metadata in others, with
a default for metadata that say none.  They cannot differ: the index holds every function under its
own key (`Index.Reachable.holds`), so that the default is never taken.
-/
import FaasOperator.Proofs.Index.Routing
import FaasOperator.Proofs.Reconcile.Protocol

namespace FaasOperator

/-- What the function under the key owns: it goes by the declared name in the key's namespace, and
has one owner, which is the function. -/
structure ObjectMeta.OwnedUnder (m : ObjectMeta) (key : ResourceKey) (f : FunctionObject) : Prop
    where
  ns : m.ns = some key.ns
  name : m.name = some f.spec.name
  owner : ∃ r, m.ownerReferences = some [r] ∧ r.kind = FunctionObject.kind ∧ r.name = key.name ∧
    f.metadata.uid = some r.uid

/-- The call stays in the key's namespace, and with what the function under the key declares. -/
def Call.Confined (key : ResourceKey) (f : FunctionObject) : Call → Prop
  | .createService s => s.metadata.OwnedUnder key f
  | .createDeployment d | .updateDeployment d => d.metadata.OwnedUnder key f
  | .getSecret ns name => ns = key.ns ∧ name ∈ f.spec.secrets.getD []
  | .patchStatus ns name _ => ns = key.ns ∧ name = key.name
  | .publish notice => notice.function = f

section Confined

variable {key : ResourceKey} {f : FunctionObject} {owner : OwnerReference} {cfg : ReconcileConfig}

theorem ObjectMeta.anyName_of_key? {m : ObjectMeta} (h : m.key? = some key) :
    m.anyName = key.name := by
  obtain ⟨-, hname, -⟩ := ObjectMeta.key?_eq_some_iff.mp h
  rw [ObjectMeta.anyName, hname]
  rfl

theorem ownedUnder_ownedMeta (hkey : f.metadata.key? = some key)
    (howner : f.ownerReference? = some owner) (annotations : StringMap String) :
    (f.ownedMeta owner annotations).OwnedUnder key f := by
  obtain ⟨hns, hname, -, -⟩ := ObjectMeta.key?_eq_some_iff.mp hkey
  obtain ⟨name, uid, hname', huid, rfl⟩ := FunctionObject.ownerReference?_eq_some howner
  have heq : name = key.name := Option.some.inj (hname'.symm.trans hname)
  exact ⟨hns, rfl, _, rfl, rfl, heq, huid⟩

theorem ownedUnder_deployment (hkey : f.metadata.key? = some key)
    (howner : f.ownerReference? = some owner) (secrets : Secrets) (policy : PullPolicy) :
    (f.deployment owner secrets policy).metadata.OwnedUnder key f := by
  rw [f.metadata_deployment]
  exact ownedUnder_ownedMeta hkey howner _

theorem ownedUnder_replacement (hkey : f.metadata.key? = some key)
    (howner : f.ownerReference? = some owner) (secrets : Secrets) (current : Deployment) :
    (replacement cfg f owner secrets current).metadata.OwnedUnder key f := by
  obtain ⟨hns, hname, hrefs⟩ := ownedUnder_deployment hkey howner secrets cfg.imagePullPolicy
  exact ⟨hns, hname, hrefs⟩

theorem confined_secretCalls (hkey : f.metadata.key? = some key) :
    ∀ c ∈ f.secretCalls, c.Confined key f := by
  intro c hc
  obtain ⟨name, hname, rfl⟩ := List.mem_map.mp hc
  exact ⟨ObjectMeta.anyNamespace_of_key? hkey, List.mem_eraseDups.mp hname⟩

theorem confined_statusCalls (hkey : f.metadata.key? = some key) (d : Option Deployment) :
    ∀ c ∈ f.statusCalls cfg d, c.Confined key f := by
  intro c hc
  unfold FunctionObject.statusCalls at hc
  split at hc
  · cases hc
  · split at hc
    · rw [List.mem_singleton.mp hc]
      exact ⟨ObjectMeta.anyNamespace_of_key? hkey, ObjectMeta.anyName_of_key? hkey⟩
    · cases hc

theorem confined_calls (hkey : f.metadata.key? = some key)
    (howner : f.ownerReference? = some owner) (current : Option Deployment) (secrets : Secrets)
    (written : Option Deployment) :
    ∀ c ∈ (f.situation owner current).calls cfg secrets written, c.Confined key f := by
  have hsecrets := confined_secretCalls hkey
  have hstatus : ∀ c ∈ f.statusCalls cfg written, c.Confined key f :=
    confined_statusCalls hkey written
  unfold FunctionObject.situation
  split
  · -- a Service and a Deployment are created
    have hservice : (Call.createService (f.service owner)).Confined key f :=
      ownedUnder_ownedMeta hkey howner _
    have hcreate : (Call.createDeployment (f.deployment owner secrets cfg.imagePullPolicy)).Confined
        key f := ownedUnder_deployment hkey howner secrets cfg.imagePullPolicy
    exact List.forall_mem_cons.mpr ⟨hservice, List.forall_mem_append.mpr
      ⟨hsecrets, List.forall_mem_cons.mpr ⟨hcreate, hstatus⟩⟩⟩
  · rename_i d
    split
    · exact fun _ hc => absurd hc List.not_mem_nil
    · split
      · -- the Deployment is replaced
        have hupdate : (Call.updateDeployment (replacement cfg f owner secrets d)).Confined key f :=
          ownedUnder_replacement hkey howner secrets d
        exact List.forall_mem_append.mpr
          ⟨hsecrets, List.forall_mem_cons.mpr ⟨hupdate, hstatus⟩⟩
      · exact confined_statusCalls hkey (some d)

theorem function_of_mem_notices {notice : Notice} {current : Option Deployment}
    (h : notice ∈ (f.situation owner current).notices) : notice.function = f := by
  unfold FunctionObject.situation at h
  split at h
  · exact List.mem_singleton.mp h ▸ rfl
  · split at h
    · exact List.mem_singleton.mp h ▸ rfl
    · split at h
      · exact List.mem_singleton.mp h ▸ rfl
      · exact List.mem_singleton.mp h ▸ rfl

theorem Observed.situation_cases (seen : Observed) (key : ResourceKey) :
    seen.situation key = .skipped ∨
      ∃ f owner, seen.function? key = some f ∧ f.ownerReference? = some owner ∧
        f.spec.name.isEmpty = false ∧
        seen.situation key = f.situation owner (seen.deployment? ⟨key.ns, f.spec.name⟩) := by
  unfold Observed.situation
  cases hf : seen.function? key with
  | none => exact .inl rfl
  | some f =>
      dsimp only
      cases howner : f.ownerReference? with
      | none => exact .inl rfl
      | some owner =>
          dsimp only
          split
          · exact .inl rfl
          · rename_i hname
            exact .inr ⟨f, owner, rfl, howner, by simpa using hname, rfl⟩

end Confined

/-- Every call that a reconcile can come to stays in the key's namespace, whatever is cached of the
Deployments and whatever the cluster answers: what is written goes by the name that the cached
function declares and has that function as its one owner, Secrets are read that the function
declares, and the status is reported for the function under the key.  The function says its
namespace, its name and the name of its workload, so that no default is taken for any of them. -/
theorem sync_confined {i : Index} (hi : i.Reachable) (cfg : ReconcileConfig) (key : ResourceKey)
    (deployments : ResourceKey → Option Deployment) :
    (sync cfg ⟨i.function?, deployments⟩ key).Only fun c => ∃ f, i.function? key = some f ∧
      f.metadata.ns = some key.ns ∧ f.metadata.name = some key.name ∧
      f.spec.name.isEmpty = false ∧ c.Confined key f := by
  refine Plan.only_of_yields fun t r h e he => ?_
  obtain ⟨hfollows, -⟩ := follows_sync h
  have hcall := hfollows.calls_prefix.subset (List.mem_map_of_mem he)
  rcases Observed.situation_cases ⟨i.function?, deployments⟩ key with
    hskip | ⟨f, owner, hf, howner, hname, hsituation⟩
  · rw [hskip] at hcall
    cases hcall
  · rw [hsituation] at hcall
    have hkey : f.metadata.key? = some key := hi.holds.functions key f hf
    obtain ⟨hns, hmeta, -, -⟩ := ObjectMeta.key?_eq_some_iff.mp hkey
    refine ⟨f, hf, hns, hmeta, hname, ?_⟩
    rcases List.mem_append.mp hcall with hcall | hcall
    · exact confined_calls hkey howner _ _ _ _ hcall
    · obtain ⟨notice, hnotice, heq⟩ := List.mem_map.mp hcall
      rw [← heq]
      exact function_of_mem_notices hnotice

/-- The index once the function that declares three Secrets is cached. -/
def secretiveIndex : Index := (Index.empty.notify (.applyFunction secretiveFunction)).1

theorem sync_confined_refused :
    secretiveIndex.Reachable ∧
    (sync ⟨.always, true⟩ ⟨secretiveIndex.function?, fun _ => none⟩
      ⟨"openfaas-fn", "echo"⟩).Yields refusedCreation (.error (.secret "tls" missing)) ∧
    ∀ e ∈ refusedCreation, e.call.Confined ⟨"openfaas-fn", "echo"⟩ secretiveFunction := by
  have hi : secretiveIndex.Reachable := .notify _ .empty
  have h : (sync ⟨.always, true⟩ ⟨secretiveIndex.function?, fun _ => none⟩
      ⟨"openfaas-fn", "echo"⟩).Yields refusedCreation (.error (.secret "tls" missing)) :=
    .call _ (.call _ (.call _ (.done _)))
  refine ⟨hi, h, fun e he => ?_⟩
  obtain ⟨f, hf, -, -, -, hconfined⟩ := h.only (sync_confined hi _ _ _) e he
  cases hf
  exact hconfined

end FaasOperator
