/-
# `FaasOperator.Proofs.Index.Feedback` — what is written comes back

## What is proved

A Deployment is recognised in two places: a reconcile asks for the owner's kind and uid, and the
index for its kind and name, in the Deployment's namespace.  Let a Deployment be rendered for a
stored function, with whatever Secrets, and be stored at any version.  Then
(`own_deployment_returns`):

* a reconcile takes it for the function's own, and for that of no function with another uid;
* when it is applied at a version that is not the cached one, or deleted from the cache, then the
  function's key gets dirty, and no other key, from every state of the index in which the function
  is cached.

## How

Both go by the first reference that claims control, and what is made for a function has the
function's own there and no other.
-/
import FaasOperator.Proofs.Index.Routing
import FaasOperator.Proofs.Reconcile.Sends

namespace FaasOperator

def Deployment.atVersion (version : String) (d : Deployment) : Deployment :=
  { d with metadata := { d.metadata with resourceVersion := some version } }

section MadeFor

variable {d : Deployment} {f : FunctionObject} {owner : OwnerReference} {key : ResourceKey}

theorem Deployment.MadeFor.atVersion (h : d.MadeFor f owner) (version : String) :
    (d.atVersion version).MadeFor f owner :=
  ⟨h.ns, h.name, h.declaration, h.controller⟩

theorem Deployment.MadeFor.isControlledBy_iff (h : d.MadeFor f owner)
    (howner : f.ownerReference? = some owner) {g : FunctionObject} {other : OwnerReference}
    (hother : g.ownerReference? = some other) :
    d.isControlledBy other = true ↔ g.metadata.uid = f.metadata.uid := by
  obtain ⟨name, uid, -, huid, rfl⟩ := FunctionObject.ownerReference?_eq_some howner
  obtain ⟨name', uid', -, huid', rfl⟩ := FunctionObject.ownerReference?_eq_some hother
  unfold Deployment.isControlledBy
  rw [h.controller, huid, huid']
  show (FunctionObject.kind == FunctionObject.kind && uid == uid') = true ↔ some uid' = some uid
  rw [beq_self_eq_true, Bool.true_and, beq_iff_eq, Option.some_inj]
  exact eq_comm

/-- The index takes the Deployment for the one of the function under this key. -/
theorem Deployment.MadeFor.tells_iff (h : d.MadeFor f owner)
    (howner : f.ownerReference? = some owner) (hkey : f.metadata.Names key) {i : Index}
    (hf : i.function? key = some f) (name : String) (key' : ResourceKey) :
    i.Tells ⟨key.ns, name⟩ d key' ↔ key' = key := by
  obtain ⟨ownName, uid, hname, -, rfl⟩ := FunctionObject.ownerReference?_eq_some howner
  have hown : ownName = key.name := Option.some.inj (hname.symm.trans hkey.2.1)
  constructor
  · rintro ⟨(hns : key'.ns = key.ns), ⟨r, hr, -, hrname⟩, -⟩
    rw [h.controller] at hr
    cases hr
    by_contra hne
    exact ResourceKey.name_ne hns hne (hrname.symm.trans hown)
  · rintro rfl
    exact ⟨rfl, ⟨_, h.controller, rfl, hown⟩, f, hf⟩

end MadeFor

/-- What a function's Deployment sets going is a reconcile of that function and of no other one. The
Deployment is made from whatever Secrets there are, and stored at any version: it is the function's
own and not that of any function with another uid, and when it is applied in a version that is not
the cached one, or deleted from the cache, then the function's key gets dirty, and no other key. -/
theorem own_deployment_returns {f : FunctionObject} {key : ResourceKey} {uid : String}
    (hkey : f.metadata.Names key) (huid : f.metadata.uid = some uid) (hname : f.spec.name ≠ "")
    (secrets : Secrets) (policy : PullPolicy) (version : String) :
    ∃ owner d, f.ownerReference? = some owner ∧
      d = (f.deployment owner secrets policy).atVersion version ∧
      d.isControlledBy owner = true ∧
      (∀ (g : FunctionObject) (other : OwnerReference), g.ownerReference? = some other →
        g.metadata.uid ≠ some uid → d.isControlledBy other = false) ∧
      ∀ (i : Index) (q : WorkQueue ResourceKey), i.function? key = some f → q.closed = false →
        ((∀ p, i.deployment? ⟨key.ns, f.spec.name⟩ = some p →
            p.metadata.resourceVersion ≠ some version) →
          ∀ key', key' ∈ (q.addAll (i.notify (.applyDeployment d)).2).dirty ↔
            key' ∈ q.dirty ∨ key' = key) ∧
        (i.deployment? ⟨key.ns, f.spec.name⟩ = some d →
          ∀ key', key' ∈ (q.addAll (i.notify (.deleteDeployment ⟨key.ns, f.spec.name⟩)).2).dirty ↔
            key' ∈ q.dirty ∨ key' = key) := by
  obtain ⟨owner, howner⟩ := FunctionObject.exists_ownerReference
    (ObjectMeta.key?_eq_some_iff_names.mpr hkey) huid
  have hmade := (FunctionObject.madeFor_deployment howner secrets policy).atVersion version
  have hnames : ((f.deployment owner secrets policy).atVersion version).metadata.Names
      ⟨key.ns, f.spec.name⟩ :=
    ⟨hmade.ns.trans hkey.1, hmade.name, hkey.2.2.1, hname⟩
  refine ⟨owner, _, howner, rfl, (hmade.isControlledBy_iff howner howner).mpr rfl, ?_, ?_⟩
  · intro g other hother hne
    rw [← Bool.not_eq_true, hmade.isControlledBy_iff howner hother, huid]
    exact hne
  · intro i q hf hopen
    have htells := hmade.tells_iff howner hkey hf f.spec.name
    constructor
    · intro hversion key'
      have hnews : i.News ⟨key.ns, f.spec.name⟩
          ((f.deployment owner secrets policy).atVersion version) := by
        rintro p v hp hv ⟨⟩
        exact hversion p hp hv
      obtain ⟨j, -, hanswered⟩ := Index.answered_applyDeployment
        ((f.deployment owner secrets policy).atVersion version) i
      rw [WorkQueue.mem_dirty_addAll hopen, hanswered.mem_iff,
        Index.due_applyDeployment_iff hnames, and_iff_right hnews, htells]
    · intro hd key'
      have hheld : ∀ e, i.deployment? ⟨key.ns, f.spec.name⟩ = some e →
          e.metadata.Names ⟨key.ns, f.spec.name⟩ := by
        intro e he
        rw [hd] at he
        cases he
        exact hnames
      obtain ⟨j, -, hanswered⟩ := Index.answered_deleteDeployment hheld
      rw [WorkQueue.mem_dirty_addAll hopen, hanswered.mem_iff, Index.due_deleteDeployment_iff hd,
        htells]

/-- The Deployment is stored, observed, and deleted again. -/
theorem own_deployment_returns_deleted :
    Index.namedFunction.metadata.Names Index.sharedKey ∧
    Index.namedFunction.metadata.uid = some "8f3c5e1a" ∧ Index.namedFunction.spec.name ≠ "" ∧
    ∃ owner d, d = (Index.namedFunction.deployment owner ∅ .always).atVersion "1" ∧
      d.isControlledBy owner = true ∧
      Index.sharedKey ∈
        (WorkQueue.empty.addAll (Index.namedIndex.notify (.applyDeployment d)).2).dirty ∧
      Index.sharedKey ∈ (WorkQueue.empty.addAll
        ((Index.namedIndex.notify (.applyDeployment d)).1.notify
          (.deleteDeployment Index.sharedKey)).2).dirty := by
  have hkey : Index.namedFunction.metadata.Names Index.sharedKey :=
    ⟨rfl, rfl, by decide, by decide⟩
  have huid : Index.namedFunction.metadata.uid = some "8f3c5e1a" := rfl
  have hname : Index.namedFunction.spec.name ≠ "" := by decide
  obtain ⟨owner, d, -, hd, hown, -, hreturns⟩ :=
    own_deployment_returns hkey huid hname ∅ .always "1"
  refine ⟨hkey, huid, hname, owner, d, hd, hown, ?_, ?_⟩
  · have happly :=
      (hreturns Index.namedIndex .empty rfl rfl).1 (fun p hp => by cases hp) Index.sharedKey
    exact happly.mpr (.inr rfl)
  · have hf : (Index.namedIndex.notify (.applyDeployment d)).1.function? Index.sharedKey =
        some Index.namedFunction := by
      show (Index.applyDeployment d Index.namedIndex).1.function? Index.sharedKey = _
      rw [Index.function?_applyDeployment]
      rfl
    have hcached : (Index.namedIndex.notify (.applyDeployment d)).1.deployment? Index.sharedKey =
        some d := by
      show (Index.applyDeployment d Index.namedIndex).1.deployment? Index.sharedKey = _
      rw [Index.deployment?_applyDeployment, if_pos (by rw [hd]; rfl)]
    have hdelete := (hreturns _ .empty hf rfl).2 hcached Index.sharedKey
    exact hdelete.mpr (.inr rfl)

end FaasOperator
