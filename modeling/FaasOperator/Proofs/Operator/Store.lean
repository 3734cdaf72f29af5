/-
# `FaasOperator.Proofs.Operator.Store` — a cluster that keeps its word

It stores a Deployment under the name, with the declaration and with the controller that it was sent
with; it answers that something is there already only if it is; and a watch reports what was stored.
Calls may fail, before or after they had their effect.  Others may write and remove Deployments too,
but they make no function the controller of what it did not control.
-/
import FaasOperator.Proofs.Index.Notify
import FaasOperator.Proofs.Operator.System
import FaasOperator.Proofs.Reconcile.Sends

namespace FaasOperator

/-- The uid of the function that controls the Deployment, if a function does. -/
def Deployment.functionUid? (d : Deployment) : Option String :=
  match d.metadata.controller? with
  | some r => if r.kind = FunctionObject.kind then some r.uid else none
  | none => none

theorem FunctionObject.controls_iff {f : FunctionObject} {d : Deployment} :
    f.controls d = true ↔ ∃ uid, f.metadata.uid = some uid ∧ d.functionUid? = some uid := by
  unfold FunctionObject.controls Deployment.functionUid?
  cases d.metadata.controller? with
  | none => simp
  | some r =>
      by_cases hkind : r.kind = FunctionObject.kind
      · simp [hkind]
      · simp [hkind]

theorem Deployment.MadeFor.functionUid? {d : Deployment} {f : FunctionObject}
    {owner : OwnerReference} (h : d.MadeFor f owner) (howner : f.ownerReference? = some owner) :
    d.functionUid? = f.metadata.uid := by
  obtain ⟨name, uid, -, huid, rfl⟩ := FunctionObject.ownerReference?_eq_some howner
  rw [Deployment.functionUid?, h.controller, huid]
  rfl

/-- The Deployments that are stored, and all that were stored and may be reported. -/
structure DeploymentStore where
  current : ResourceKey → Option Deployment
  news : List Deployment

namespace DeploymentStore

def put (s : DeploymentStore) (k : ResourceKey) (d : Deployment) : DeploymentStore :=
  ⟨Function.update s.current k (some d), d :: s.news⟩

def remove (s : DeploymentStore) (k : ResourceKey) : DeploymentStore :=
  { s with current := Function.update s.current k none }

/-- What is stored has what matters of what was sent. -/
structure Keeps (sent stored : Deployment) : Prop where
  ns : stored.metadata.ns = sent.metadata.ns
  name : stored.metadata.name = sent.metadata.name
  declaration :
    stored.metadata.annotation? specAnnotation = sent.metadata.annotation? specAnnotation
  controller : stored.metadata.controller? = sent.metadata.controller?

/-- The writer learns what was stored, or the answer is lost. -/
def Tells (answer : Except ClusterError Deployment) (stored : Deployment) : Prop :=
  answer = .ok stored ∨ ∃ e, answer = .error e ∧ e.isAlreadyExists = false

/-- How a call may be answered.  Of Services and Secrets nothing is kept track of, and a version that
is sent along may be heeded or not. -/
inductive Answers (s : DeploymentStore) : (c : Call) → c.Answer → DeploymentStore → Prop
  | created {d stored : Deployment} {k : ResourceKey} {a : Except ClusterError Deployment} :
      d.metadata.key? = some k → s.current k = none → Keeps d stored → Tells a stored →
      Answers s (.createDeployment d) a (s.put k stored)
  | taken {d old : Deployment} {k : ResourceKey} {e : ClusterError} :
      d.metadata.key? = some k → s.current k = some old → e.isAlreadyExists = true →
      Answers s (.createDeployment d) (.error e : Except ClusterError Deployment) s
  | replaced {d old stored : Deployment} {k : ResourceKey} {a : Except ClusterError Deployment} :
      d.metadata.key? = some k → s.current k = some old → Keeps d stored → Tells a stored →
      Answers s (.updateDeployment d) a (s.put k stored)
  | service {service : Service} {a : Except ClusterError Unit} : Answers s (.createService service) a s
  | secret {ns name : String} {secret : Secret} :
      Answers s (.getSecret ns name) (.ok secret : Except ClusterError Secret) s
  | patched {ns name : String} {status : FunctionStatus} :
      Answers s (.patchStatus ns name status) (.ok () : Except ClusterError Unit) s
  | published {notice : Notice} : Answers s (.publish notice) () s
  | failed {c : Call} {a : c.Answer} {e : ClusterError} :
      c.error? a = some e → e.isAlreadyExists = false → Answers s c a s

/-- What others do: whatever they write, a function controls it only if it did before. -/
inductive Moves (s : DeploymentStore) : DeploymentStore → Prop
  | wrote {k : ResourceKey} {d : Deployment} :
      d.metadata.key? = some k →
      (∀ uid, d.functionUid? = some uid →
        ∃ old, s.current k = some old ∧ old.functionUid? = some uid) →
      Moves s (s.put k d)
  | removed {k : ResourceKey} : Moves s (s.remove k)

/-- A watch reports Deployments that were stored. -/
def Reports (s : DeploymentStore) (n : Notification) : Prop := ∀ d ∈ n.deployments, d ∈ s.news

/-- At the start no function controls anything, and what may be reported is stored. -/
structure Starts (s : DeploymentStore) : Prop where
  uncontrolled : ∀ k d, s.current k = some d → d.functionUid? = none
  stored : ∀ d ∈ s.news, ∀ k, d.metadata.key? = some k → s.current k = some d

/-- The store as surroundings of the operator. -/
abbrev surroundings (config : ReconcileConfig) (backoff : Backoff) : Surroundings :=
  ⟨DeploymentStore, Starts, Answers, Moves, Reports, config, backoff⟩

/-! ## Writes -/

variable {s s' : DeploymentStore}

theorem current_put_self (s : DeploymentStore) (k : ResourceKey) (d : Deployment) :
    (s.put k d).current k = some d :=
  Function.update_self ..

theorem current_put_of_ne (s : DeploymentStore) {k k' : ResourceKey} (h : k' ≠ k)
    (d : Deployment) : (s.put k d).current k' = s.current k' :=
  Function.update_of_ne h ..

theorem current_remove (s : DeploymentStore) (k k' : ResourceKey) :
    (s.remove k).current k' = if k' = k then none else s.current k' :=
  Function.update_apply ..

theorem Keeps.key? {sent stored : Deployment} (h : Keeps sent stored) :
    stored.metadata.key? = sent.metadata.key? := by
  simp only [ObjectMeta.key?, h.ns, h.name]

theorem Keeps.functionUid? {sent stored : Deployment} (h : Keeps sent stored) :
    stored.functionUid? = sent.functionUid? := by
  simp only [Deployment.functionUid?, h.controller]

theorem Keeps.madeFor {sent stored : Deployment} (h : Keeps sent stored) {f : FunctionObject}
    {owner : OwnerReference} (hsent : sent.MadeFor f owner) : stored.MadeFor f owner where
  ns := h.ns.trans hsent.ns
  name := h.name.trans hsent.name
  declaration := h.declaration.trans hsent.declaration
  controller := h.controller.trans hsent.controller

/-- A call changes nothing, or stores what it sent: where there was nothing if it created, and in
place of something if it updated. -/
theorem Answers.effect {c : Call} {a : c.Answer} (h : s.Answers c a s') :
    s' = s ∨ ∃ d stored k, d.metadata.key? = some k ∧ Keeps d stored ∧ s' = s.put k stored ∧
      ((c = .createDeployment d ∧ s.current k = none) ∨
        (c = .updateDeployment d ∧ ∃ old, s.current k = some old)) := by
  cases h with
  | created hkey hfree hkeeps _ => exact .inr ⟨_, _, _, hkey, hkeeps, rfl, .inl ⟨rfl, hfree⟩⟩
  | replaced hkey hold hkeeps _ => exact .inr ⟨_, _, _, hkey, hkeeps, rfl, .inr ⟨rfl, _, hold⟩⟩
  | taken _ _ _ | service | secret | patched | published | failed _ _ => exact .inl rfl

/-- The Deployment was stored under the key, and may be reported. -/
def Wrote (s : DeploymentStore) (k : ResourceKey) (d : Deployment) : Prop :=
  d ∈ s.news ∧ d.metadata.key? = some k

theorem Wrote.put {k : ResourceKey} {d : Deployment} (h : s.Wrote k d) (k' : ResourceKey)
    (d' : Deployment) : (s.put k' d').Wrote k d :=
  ⟨List.mem_cons_of_mem d' h.1, h.2⟩

theorem Answers.wrote {c : Call} {a : c.Answer} (ha : s.Answers c a s') {k : ResourceKey}
    {d : Deployment} (h : s.Wrote k d) : s'.Wrote k d := by
  rcases ha.effect with rfl | ⟨sent, stored, k', -, -, rfl, -⟩
  · exact h
  · exact h.put k' stored

theorem Answers.smooth {c : Call} {a : c.Answer} (h : s.Answers c a s')
    (ha : ∀ e, c.error? a = some e → e.isAlreadyExists = true) : c.Smooth a := by
  intro e he
  refine ⟨?_, ha e he⟩
  cases h with
  | created _ _ _ _ | taken _ _ _ | service => trivial
  | replaced _ _ _ htells =>
      rcases htells with rfl | ⟨e', rfl, hlost⟩
      · cases he
      · rw [ha e' rfl] at hlost
        cases hlost
  | secret | patched | published => cases he
  | failed he' hfailed =>
      rw [ha _ he'] at hfailed
      cases hfailed

/-- A creation that does not fail leaves something under the key: what it sent, or what was there.
-/
theorem Answers.creates {d : Deployment} {a : Except ClusterError Deployment}
    (h : s.Answers (.createDeployment d) a s') (ha : (Call.createDeployment d).Smooth a)
    {k : ResourceKey} (hkey : d.metadata.key? = some k) :
    (∃ stored, s' = s.put k stored ∧ Keeps d stored) ∨
      (s' = s ∧ ∃ old, s.current k = some old) := by
  cases h with
  | created hk _ hkeeps _ =>
      rw [hkey] at hk
      cases hk
      exact .inl ⟨_, rfl, hkeeps⟩
  | taken hk hold _ =>
      rw [hkey] at hk
      cases hk
      exact .inr ⟨rfl, _, hold⟩
  | failed he hfailed =>
      rw [(ha _ he).2] at hfailed
      cases hfailed

theorem Answers.updates {d : Deployment} {a : Except ClusterError Deployment}
    (h : s.Answers (.updateDeployment d) a s') (ha : (Call.updateDeployment d).Smooth a)
    {k : ResourceKey} (hkey : d.metadata.key? = some k) :
    ∃ stored, s' = s.put k stored ∧ Keeps d stored := by
  cases h with
  | replaced hk _ hkeeps _ =>
      rw [hkey] at hk
      cases hk
      exact ⟨_, rfl, hkeeps⟩
  | failed he _ => exact absurd (ha _ he).1 id

end DeploymentStore

end FaasOperator
