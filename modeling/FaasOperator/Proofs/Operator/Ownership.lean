/-
# `FaasOperator.Proofs.Operator.Ownership` — the operator overwrites nothing but its own

## What is proved

In every run against an API server (`FaasOperator.Proofs.Operator.ApiServer`), however late the news
and whoever else writes (`replaces_own_as_seen`):

* when the server takes a replacement from a worker, what it replaces is stored at that moment
  exactly as the worker saw it, goes by the name that the function under the worker's key declares,
  and is controlled by that function;
* a call of a worker changes what is stored under a key in no other way.

## How

The version that was seen is sent along, and the server has stored one state at that version only
(`Faithful`).
-/
import FaasOperator.Proofs.Operator.ApiServer
import FaasOperator.Proofs.Reconcile.Calls
import FaasOperator.Proofs.Workload.Change

namespace FaasOperator

/-! ## Keys -/

theorem key?_replacement {cfg : ReconcileConfig} {f : FunctionObject} {owner : OwnerReference}
    {secrets : Secrets} {current : Deployment} {key : ResourceKey}
    (hkey : f.metadata.key? = some key) (hname : f.spec.name.isEmpty = false) :
    (replacement cfg f owner secrets current).metadata.key? = some ⟨key.ns, f.spec.name⟩ := by
  obtain ⟨hns, -, hempty, -⟩ := ObjectMeta.key?_eq_some_iff.mp hkey
  simp only [replacement, f.metadata_deployment]
  exact ObjectMeta.key?_eq_some_iff.mpr ⟨hns, rfl, hempty, hname⟩

/-! ## What is remembered was stored -/

/-- The worker remembers the function under its key and Deployments that were stored, and what it is
still to do goes by them. -/
def Worker.Faithful (cfg : ReconcileConfig) (s : ApiServer) : Worker → Prop
  | .idle | .took _ | .settled _ _ => True
  | .found key f => ∀ g, f = some g → g.metadata.key? = some key
  | .busy key seen rest =>
      (∀ f, seen.function? key = some f → f.metadata.key? = some key) ∧
      (∀ k d, seen.deployment? k = some d → (k, d) ∈ s.history) ∧
      rest.Only (Call.Permitted cfg seen key)

theorem Worker.Faithful.mono {cfg : ReconcileConfig} {s s' : ApiServer} {worker : Worker}
    (h : worker.Faithful cfg s) (hs : ∀ e ∈ s.history, e ∈ s'.history) :
    worker.Faithful cfg s' := by
  cases worker with
  | idle | took _ | settled _ _ => trivial
  | found key f => exact h
  | busy key seen rest => exact ⟨h.1, fun k d hd => hs _ (h.2.1 k d hd), h.2.2⟩

namespace Operator

variable {cfg : ReconcileConfig} {backoff : Backoff} {t : List Event} {e : Event}
  {w w' : Operator (ApiServer.surroundings cfg backoff).State}

/-- Each function is cached under its own key, and each Deployment as it was stored once. -/
structure Faithful (cfg : ReconcileConfig) (w : Operator ApiServer) : Prop where
  server : w.surroundings.Consistent
  cache : w.index.Holds (fun key f => f.metadata.key? = some key)
    (fun key d => (key, d) ∈ w.surroundings.history)
  workers : ∀ i, (w.workers i).Faithful cfg w.surroundings

theorem Faithful.congr {w w' : Operator ApiServer} (h : w.Faithful cfg) (hi : w'.index = w.index)
    (hw : w'.workers = w.workers) (hs : w'.surroundings = w.surroundings) : w'.Faithful cfg where
  server := hs ▸ h.server
  cache := hs ▸ hi ▸ h.cache
  workers := hs ▸ hw ▸ h.workers

theorem Faithful.setWorker (h : w.Faithful cfg) {i : Nat} {s : Worker}
    (hs : s.Faithful cfg w.surroundings) : (w.setWorker i s).Faithful cfg where
  server := h.server
  cache := h.cache
  workers := forall_setWorker h.workers hs

theorem Faithful.serve (h : w.Faithful cfg) {s : ApiServer} (hs : s.Consistent)
    (hhistory : ∀ e ∈ w.surroundings.history, e ∈ s.history) :
    Faithful cfg { w with surroundings := s } where
  server := hs
  cache := h.cache.mono (fun _ _ hf => hf) fun _ _ hd => hhistory _ hd
  workers := fun i => (h.workers i).mono hhistory

theorem Faithful.step (h : w.Faithful cfg)
    (hs : Step (ApiServer.surroundings cfg backoff) w e w') : w'.Faithful cfg := by
  cases hs with
  | notify hreports => exact ⟨h.server, h.cache.notify (fun _ _ _ hk => hk) hreports, h.workers⟩
  | resync => exact ⟨h.server, h.cache.resync, h.workers⟩
  | add _ | fire _ | close => exact h.congr rfl rfl rfl
  | @take i k _ _ _ => exact (h.setWorker (i := i) (s := .took k) trivial).congr rfl rfl rfl
  | @find i k hi => exact h.setWorker fun f hf => h.cache.functions k f hf
  | @look i k f hi =>
      have hfound := h.workers i
      rw [hi] at hfound
      exact h.setWorker ⟨hfound, h.cache.deployments, sync_only cfg _ k⟩
  | @call i k seen c next a s hi hanswer =>
      have hbusy := h.workers i
      rw [hi] at hbusy
      obtain ⟨hfunction, hdeployment, honly⟩ := hbusy
      exact (h.setWorker (s := .busy k seen (next a)) ⟨hfunction, hdeployment, honly.2 a⟩).serve
        (h.server.answers hanswer) hanswer.history
  | @settle i k _ r _ => exact (h.setWorker (i := i) (s := .settled k r) trivial).congr rfl rfl rfl
  | @release i _ _ _ => exact (h.setWorker (i := i) (s := .idle) trivial).congr rfl rfl rfl
  | move hmove => exact h.serve (h.server.moves hmove) hmove.history

theorem Run.faithful (h : Run (ApiServer.surroundings cfg backoff) t w) : w.Faithful cfg := by
  induction h with
  | start hs => exact ⟨hs, Index.holds_empty, fun _ => trivial⟩
  | step _ hs ih => exact ih.step hs

/-! ## What is replaced was seen -/

/-- The worker is at work on the function under `key`, and has seen the Deployment under `k`, which
goes by the name that the function declares and is controlled by that function. -/
def SeesOwn {σ : Type} (w : Operator σ) (i : Nat) (key k : ResourceKey) (d : Deployment) : Prop :=
  ∃ seen rest f r, w.workers i = .busy key seen rest ∧ seen.function? key = some f ∧
    k = ⟨key.ns, f.spec.name⟩ ∧ seen.deployment? k = some d ∧ d.metadata.controller? = some r ∧
    r.kind = FunctionObject.kind ∧ f.metadata.uid = some r.uid

/-- A worker sends nothing to replace a Deployment but what goes by one that it has seen. -/
theorem Faithful.permitted (h : w.Faithful cfg) {i : Nat} {key : ResourceKey} {seen : Observed}
    {d : Deployment} {next : Call.Answer (.updateDeployment d) → Attempt Outcome}
    (hi : w.workers i = .busy key seen (.call (.updateDeployment d) next)) :
    ∃ k current, d.metadata.key? = some k ∧
      d.metadata.resourceVersion = current.metadata.resourceVersion ∧
      (k, current) ∈ w.surroundings.history ∧ w.SeesOwn i key k current := by
  have hbusy := h.workers i
  rw [hi] at hbusy
  obtain ⟨hfunction, hdeployment, honly, -⟩ := hbusy
  obtain ⟨f, owner, secrets, current, hf, hname, howner, hcurrent, howned, rfl⟩ := honly d rfl
  obtain ⟨name, uid, -, huid, rfl⟩ := FunctionObject.ownerReference?_eq_some howner
  obtain ⟨r, hr, hkind, hruid⟩ := Deployment.controller_of_isControlledBy howned
  exact ⟨_, current, key?_replacement (hfunction f hf) hname, rfl, hdeployment _ _ hcurrent,
    seen, _, f, r, hi, hf, rfl, hcurrent, hr, hkind, huid.trans (congrArg some hruid.symm)⟩

/-- Two states of a Deployment at one version are one state, so what is replaced at the version that
was seen is what was seen. -/
theorem Faithful.seesOwn_of_replaces (h : w.Faithful cfg) {i : Nat} {key : ResourceKey}
    {seen : Observed} {d : Deployment} {next : Call.Answer (.updateDeployment d) → Attempt Outcome}
    {s : ApiServer} (hi : w.workers i = .busy key seen (.call (.updateDeployment d) next))
    (hr : w.surroundings.Replaces d s) {k : ResourceKey} (hk : d.metadata.key? = some k) :
    ∃ old, w.surroundings.current k = some old ∧ w.SeesOwn i key k old := by
  obtain ⟨k₁, current, hk₁, hversion, hseen, hown⟩ := h.permitted hi
  obtain @⟨k₂, old, stored, hk₂, hold, hold', -⟩ := hr
  obtain rfl : k₁ = k := Option.some.inj (hk₁.symm.trans hk)
  obtain rfl : k₂ = k₁ := Option.some.inj (hk₂.symm.trans hk₁)
  have hsame : old = current := h.server.versions k₂ old current (h.server.stored k₂ old hold)
    hseen (hold'.symm.trans hversion)
  exact ⟨old, hold, hsame ▸ hown⟩

/-- The operator overwrites nothing but its own, as it saw it.  In every run, a replacement that the
server takes from a worker is of a Deployment that is stored at that moment exactly as the worker
saw it, and that is controlled by the function that the worker is at work on; and no other call
changes a Deployment that is stored. -/
theorem replaces_own_as_seen (h : Run (ApiServer.surroundings cfg backoff) t w) {i : Nat}
    {key : ResourceKey} {c : Call} {a : c.Answer}
    (hs : Step (ApiServer.surroundings cfg backoff) w (.called i key c a) w') :
    (∀ d, c = .updateDeployment d → w.surroundings.Replaces d w'.surroundings →
      ∃ k old, d.metadata.key? = some k ∧ w.surroundings.current k = some old ∧
        w.SeesOwn i key k old) ∧
    (∀ k old, w.surroundings.current k = some old → w'.surroundings.current k ≠ some old →
      w.SeesOwn i key k old ∧
        ∃ d, c = .updateDeployment d ∧ w.surroundings.Replaces d w'.surroundings ∧
          d.metadata.key? = some k) := by
  have hfaithful := h.faithful
  cases hs with
  | call hi hanswer =>
      constructor
      · rintro d rfl hr
        obtain ⟨k, current, hk, -⟩ := hfaithful.permitted hi
        obtain ⟨old, hold, hown⟩ := hfaithful.seesOwn_of_replaces hi hr hk
        exact ⟨k, old, hk, hold, hown⟩
      · intro k old hold hnew
        obtain ⟨d, rfl, hr, hk⟩ := hanswer.replaces hold hnew
        obtain ⟨old', hold', hown⟩ := hfaithful.seesOwn_of_replaces hi hr hk
        obtain rfl : old = old' := Option.some.inj (hold.symm.trans hold')
        exact ⟨hown, d, rfl, hr, hk⟩

/-- A function that has its Deployment. -/
def heldFunction : FunctionObject :=
  ⟨{ ObjectMeta.empty with name := some "echo", ns := some "openfaas-fn", uid := some "8f3c5e1a" },
    { FunctionSpec.empty with name := "echo-v1" }, none⟩

def heldKey : ResourceKey := ⟨"openfaas-fn", "echo"⟩

def heldOwner : OwnerReference :=
  ⟨FunctionObject.apiVersion, FunctionObject.kind, "echo", "8f3c5e1a", some true, some true⟩

/-- The Deployment, which does not say what it was made from. -/
def heldWorkload : Deployment :=
  { Deployment.empty with
    metadata := { ObjectMeta.empty with
      name := some "echo-v1"
      ns := some "openfaas-fn"
      resourceVersion := some "7"
      ownerReferences := some [heldOwner] } }

def heldServer : ApiServer :=
  ⟨fun k => if k = ⟨"openfaas-fn", "echo-v1"⟩ then some heldWorkload else none,
    [(⟨"openfaas-fn", "echo-v1"⟩, heldWorkload)]⟩

theorem consistent_heldServer : heldServer.Consistent where
  stored := by
    intro k d h
    simp only [heldServer] at h
    split at h
    · rename_i hk
      cases h
      exact hk ▸ List.mem_cons_self
    · cases h
  versions := by
    intro k d d' h h' _
    rw [heldServer, List.mem_singleton] at h h'
    exact (Prod.mk.inj h).2.trans (Prod.mk.inj h').2.symm

def heldReplacement : Deployment :=
  replacement ⟨.always, true⟩ heldFunction heldOwner ∅ heldWorkload

def heldUpdate : Deployment :=
  { heldReplacement with
    metadata := { heldReplacement.metadata with resourceVersion := some "8" } }

theorem replaces_own_as_seen_held :
    ∃ t, ∃ w w' : Operator ApiServer, ∃ a : Except ClusterError Deployment,
      Run (ApiServer.surroundings ⟨.always, true⟩ .default) t w ∧
      Step (ApiServer.surroundings ⟨.always, true⟩ .default) w
        (.called 0 heldKey (.updateDeployment heldReplacement) a) w' ∧
      w.surroundings.Replaces heldReplacement w'.surroundings ∧
      ∃ k old, heldReplacement.metadata.key? = some k ∧ w.surroundings.current k = some old ∧
        w.SeesOwn 0 heldKey k old := by
  have h₀ : Run (ApiServer.surroundings ⟨.always, true⟩ .default) [] (start heldServer) :=
    .start consistent_heldServer
  have h₁ := h₀.step (.notify (n := .applyFunction heldFunction) fun d hd => by cases hd)
  have h₂ := h₁.step (.notify (n := .applyDeployment heldWorkload) fun d hd k hk => by
    rw [List.mem_singleton.mp hd] at hk ⊢
    exact (Option.some.inj hk) ▸ List.mem_cons_self)
  have h₃ := h₂.step (.add (k := heldKey) List.mem_cons_self)
  have h₄ := h₃.step (.take (i := 0) rfl rfl)
  have h₅ := h₄.step (.find (i := 0) (k := heldKey) rfl)
  have h₆ := h₅.step (.look (i := 0) (k := heldKey) (f := some heldFunction) rfl)
  have hfresh : heldServer.Fresh ⟨"openfaas-fn", "echo-v1"⟩ heldUpdate := by
    refine ⟨"8", rfl, fun old hold => ?_⟩
    rw [heldServer, List.mem_singleton] at hold
    rw [(Prod.mk.inj hold).2]
    decide
  have hreplaces : heldServer.Replaces heldReplacement
      (heldServer.store ⟨"openfaas-fn", "echo-v1"⟩ heldUpdate) := ⟨rfl, rfl, rfl, hfresh⟩
  refine ⟨_, _, _, Except.ok heldUpdate, h₆, .call rfl (.replaced hreplaces), hreplaces, ?_⟩
  exact (replaces_own_as_seen h₆ (.call (i := 0) (k := heldKey) (a := Except.ok heldUpdate)
    (c := .updateDeployment heldReplacement) rfl (.replaced hreplaces))).1 _ rfl hreplaces

end Operator

end FaasOperator
