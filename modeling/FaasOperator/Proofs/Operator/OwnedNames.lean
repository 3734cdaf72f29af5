/-
# `FaasOperator.Proofs.Operator.OwnedNames` — which Deployments a function owns

## What is proved

In every run in a cluster that keeps its word (`owned_by_declared_name`):

* whatever a function controls goes by a name that some version of it has declared;
* so it controls one Deployment at most if all its versions have declared one name;
* once a reconcile has succeeded with the version that it has read, a function that was never
  renamed controls nothing but the Deployment of the declared name, and if nobody else has written
  or removed anything then a Deployment of that name is there, renamed or not, and is the function's
  own if the reconcile left it as it was or updated it, and somebody else's if it found a conflict.

## What fails

A function that is renamed and reconciled again controls two Deployments, although nobody else has
written anything (`renamed_function_controls_two`): a reconcile looks only at the name that the
function declares now, and the operator never removes a Deployment.

## How

Two invariants.  `Named` is about names, and holds whatever others write; `Steady` is about who
controls what, which never changes where nobody else writes.
-/
import FaasOperator.Proofs.Operator.LastPass
import FaasOperator.Proofs.Operator.Store

namespace FaasOperator

open Plan

/-- A watch has reported this version of a function. -/
def Declared (t : List Event) (f : FunctionObject) : Prop :=
  ∃ n keys, .notified n keys ∈ t ∧ f ∈ n.functions

theorem Declared.append {t : List Event} {f : FunctionObject} (h : Declared t f)
    (t' : List Event) : Declared (t' ++ t) f := by
  obtain ⟨n, keys, hmem, hf⟩ := h
  exact ⟨n, keys, List.mem_append_right t' hmem, hf⟩

/-- The function's Deployment is to go by this key. -/
def FunctionObject.Names (f : FunctionObject) (k : ResourceKey) : Prop :=
  f.metadata.ns = some k.ns ∧ f.spec.name = k.name

/-- All versions that were declared under the uid have their Deployment go by one key. -/
def Unrenamed (t : List Event) (uid : String) : Prop :=
  ∀ f g k, Declared t f → Declared t g → f.metadata.uid = some uid → g.metadata.uid = some uid →
    f.Names k → g.Names k

theorem FunctionObject.Names.eq {f : FunctionObject} {k k' : ResourceKey} (h : f.Names k)
    (h' : f.Names k') : k = k' := by
  obtain ⟨ns, name⟩ := k
  obtain ⟨ns', name'⟩ := k'
  have hns : ns = ns' := Option.some.inj (h.1.symm.trans h'.1)
  have hname : name = name' := h.2.symm.trans h'.2
  rw [hns, hname]

theorem Deployment.MadeFor.names {d : Deployment} {f : FunctionObject} {owner : OwnerReference}
    (h : d.MadeFor f owner) {k : ResourceKey} (hkey : d.metadata.key? = some k) : f.Names k := by
  obtain ⟨hns, hname, -, -⟩ := ObjectMeta.key?_eq_some_iff.mp hkey
  exact ⟨h.ns.symm.trans hns, Option.some.inj (h.name.symm.trans hname)⟩

/-- The worker has read such a function, and sends nothing but what is made for it. -/
def Worker.Reads (D : ResourceKey → FunctionObject → Prop) : Worker → Prop
  | .idle | .took _ | .settled _ _ => True
  | .found key f => ∀ g, f = some g → D key g
  | .busy key seen rest =>
      (∀ g, seen.function? key = some g → D key g) ∧ rest.Only (Call.SendsSeen (seen.function? key))

theorem Worker.Reads.mono {D D' : ResourceKey → FunctionObject → Prop} {worker : Worker}
    (h : worker.Reads D) (hD : ∀ key f, D key f → D' key f) : worker.Reads D' := by
  cases worker with
  | idle | took _ | settled _ _ => trivial
  | found key f => exact fun g hg => hD key g (h g hg)
  | busy key seen rest => exact ⟨fun g hg => hD key g (h.1 g hg), h.2⟩

namespace Operator

variable {cfg : ReconcileConfig} {backoff : Backoff} {t : List Event} {e : Event}
  {w w' : Operator (DeploymentStore.surroundings cfg backoff).State}

/-! ## Names -/

/-- The uid was declared with a version that has its Deployment go by this key. -/
def Claims (t : List Event) (uid : String) (k : ResourceKey) : Prop :=
  ∃ f, Declared t f ∧ f.metadata.uid = some uid ∧ f.Names k

/-- Whatever is cached or read was declared, and what a function controls goes by a name that it has
declared. -/
structure Named (t : List Event) (w : Operator DeploymentStore) : Prop where
  cached : w.index.Holds (fun key f => f.metadata.key? = some key ∧ Declared t f) fun _ _ => True
  workers : ∀ i, (w.workers i).Reads fun key f => f.metadata.key? = some key ∧ Declared t f
  stored : ∀ k d uid, w.surroundings.current k = some d → d.functionUid? = some uid →
    Claims t uid k

theorem Named.cons {w : Operator DeploymentStore} (h : w.Named t) (e : Event) :
    w.Named (e :: t) where
  cached := h.cached.mono (fun _ _ hf => ⟨hf.1, hf.2.append [e]⟩) fun _ _ _ => trivial
  workers := fun i => (h.workers i).mono fun _ _ hf => ⟨hf.1, hf.2.append [e]⟩
  stored := by
    intro k d uid hd huid
    obtain ⟨f, hf, hclaims⟩ := h.stored k d uid hd huid
    exact ⟨f, hf.append [e], hclaims⟩

theorem Named.congr {w w' : Operator DeploymentStore} (h : w.Named t) (hi : w'.index = w.index)
    (hw : w'.workers = w.workers) (hs : w'.surroundings = w.surroundings) : w'.Named t where
  cached := hi ▸ h.cached
  workers := hw ▸ h.workers
  stored := hs ▸ h.stored

theorem Named.setWorker {w : Operator DeploymentStore} (h : w.Named t) {i : Nat} {s : Worker}
    (hs : s.Reads fun key f => f.metadata.key? = some key ∧ Declared t f) :
    (w.setWorker i s).Named t where
  cached := h.cached
  workers := forall_setWorker h.workers hs
  stored := h.stored

theorem Named.put {w : Operator DeploymentStore} (h : w.Named t) {k : ResourceKey} {d : Deployment}
    (hd : ∀ uid, d.functionUid? = some uid → Claims t uid k) :
    Named t { w with surroundings := w.surroundings.put k d } where
  cached := h.cached
  workers := h.workers
  stored := by
    intro k' d' uid hd' huid
    by_cases hk : k' = k
    · subst hk
      rw [w.surroundings.current_put_self] at hd'
      cases hd'
      exact hd uid huid
    · rw [w.surroundings.current_put_of_ne hk] at hd'
      exact h.stored k' d' uid hd' huid

theorem Named.call {w : Operator DeploymentStore} (h : w.Named t) {seen : Observed}
    {key : ResourceKey} {c : Call} {a : c.Answer} {s : DeploymentStore}
    (hread : ∀ g, seen.function? key = some g → Declared t g)
    (hsends : c.SendsSeen (seen.function? key)) (ha : w.surroundings.Answers c a s) :
    Named t { w with surroundings := s } := by
  rcases ha.effect with rfl | ⟨sent, stored, k, hkey, hkeeps, rfl, hc⟩
  · exact h
  · have hsent : c.sent? = some sent := by
      rcases hc with ⟨rfl, -⟩ | ⟨rfl, -⟩ <;> rfl
    obtain ⟨f, owner, hf, -, howner, hmade⟩ := hsends sent hsent
    refine h.put ?_
    intro uid huid
    rw [hkeeps.functionUid?, hmade.functionUid? howner] at huid
    exact ⟨f, hread f hf, huid, hmade.names hkey⟩

theorem Named.move {w : Operator DeploymentStore} (h : w.Named t) {s : DeploymentStore}
    (hm : w.surroundings.Moves s) : Named t { w with surroundings := s } := by
  cases hm with
  | wrote hkey hcontrol =>
      -- others make no function the controller, so the claim is that of before
      refine h.put ?_
      intro uid huid
      obtain ⟨old, hold, hsame⟩ := hcontrol uid huid
      exact h.stored _ old uid hold hsame
  | removed =>
      refine ⟨h.cached, h.workers, ?_⟩
      intro k d uid hd huid
      rw [w.surroundings.current_remove] at hd
      split at hd
      · cases hd
      · exact h.stored k d uid hd huid

theorem Named.step (h : w.Named t) (hs : Step (DeploymentStore.surroundings cfg backoff) w e w') :
    w'.Named (e :: t) := by
  have hcons := h.cons e
  cases hs with
  | @notify n _ =>
      -- what the watch reports is declared by now
      refine ⟨hcons.cached.notify ?_ fun _ _ _ _ => trivial, hcons.workers, hcons.stored⟩
      intro f hf key hkey
      exact ⟨hkey, n, _, List.mem_cons_self, hf⟩
  | resync => exact ⟨hcons.cached.resync, hcons.workers, hcons.stored⟩
  | add _ | fire _ | close => exact hcons.congr rfl rfl rfl
  | @take i k _ _ _ => exact (hcons.setWorker (i := i) (s := .took k) trivial).congr rfl rfl rfl
  | @find i k hi => exact hcons.setWorker fun g hg => hcons.cached.functions k g hg
  | @look i k f hi =>
      have hfound := hcons.workers i
      rw [hi] at hfound
      exact hcons.setWorker ⟨hfound, sync_sends cfg _ k⟩
  | @call i k seen c next a s hi ha =>
      have hbusy := hcons.workers i
      rw [hi] at hbusy
      obtain ⟨hread, honly⟩ := hbusy
      have hnext := hcons.setWorker (i := i) (s := .busy k seen (next a)) ⟨hread, honly.2 a⟩
      exact hnext.call (fun g hg => (hread g hg).2) honly.1 ha
  | @settle i k _ r _ => exact (hcons.setWorker (i := i) (s := .settled k r) trivial).congr rfl rfl rfl
  | @release i _ _ _ => exact (hcons.setWorker (i := i) (s := .idle) trivial).congr rfl rfl rfl
  | move hmove => exact hcons.move hmove

theorem Run.named (h : Run (DeploymentStore.surroundings cfg backoff) t w) : w.Named t := by
  induction h with
  | start hs =>
      refine ⟨Index.holds_empty, fun _ => trivial, ?_⟩
      intro k d uid hd huid
      rw [hs.uncontrolled k d hd] at huid
      cases huid
  | step _ hs ih => exact ih.step hs

/-- What a function controls goes by one key as long as the function is not renamed. -/
theorem Named.eq_of_unrenamed {w : Operator DeploymentStore} (h : w.Named t) {uid : String}
    (hname : Unrenamed t uid) {k k' : ResourceKey} {d : Deployment}
    (hd : w.surroundings.current k = some d) (huid : d.functionUid? = some uid)
    (hk' : Claims t uid k') : k = k' := by
  obtain ⟨f, hf, hfuid, hnames⟩ := h.stored k d uid hd huid
  obtain ⟨g, hg, hguid, hnames'⟩ := hk'
  exact (hname f g k hf hg hfuid hguid hnames).eq hnames'

end Operator

/-! ## Control -/

/-- Nothing that was stored or could be reported is lost, and nothing changes hands. -/
structure DeploymentStore.Extends (s s' : DeploymentStore) : Prop where
  current : ∀ k d, s.current k = some d →
    ∃ d', s'.current k = some d' ∧ d'.functionUid? = d.functionUid?
  wrote : ∀ k d, s.Wrote k d → s'.Wrote k d

/-- If the exchange is a creation that did not fail, then something is stored under the key. -/
def DeploymentStore.Filled (s : DeploymentStore) (e : Exchange) : Prop :=
  ∀ d k, e.call = .createDeployment d → e.call.Smooth e.answer → d.metadata.key? = some k →
    ∃ d', s.current k = some d'

/-- The worker has read a function under its own key and Deployments that were stored, and has come
so far with its reconcile. -/
def Worker.Steady (cfg : ReconcileConfig) (s : DeploymentStore) : Worker → Prop
  | .idle | .took _ | .settled _ _ => True
  | .found key f => ∀ g, f = some g → g.metadata.key? = some key
  | .busy key seen rest =>
      (∀ g, seen.function? key = some g → g.metadata.key? = some key) ∧
      (∀ k d, seen.deployment? k = some d → s.Wrote k d) ∧
      ∃ t, (sync cfg seen key).After t rest ∧ ∀ e ∈ t, s.Filled e

theorem DeploymentStore.Extends.refl (s : DeploymentStore) : s.Extends s :=
  ⟨fun _ d hd => ⟨d, hd, rfl⟩, fun _ _ h => h⟩

theorem DeploymentStore.Extends.trans {s s' s'' : DeploymentStore} (h : s.Extends s')
    (h' : s'.Extends s'') : s.Extends s'' where
  current := by
    intro k d hd
    obtain ⟨d', hd', huid⟩ := h.current k d hd
    obtain ⟨d'', hd'', huid'⟩ := h'.current k d' hd'
    exact ⟨d'', hd'', huid'.trans huid⟩
  wrote := fun k d hwrote => h'.wrote k d (h.wrote k d hwrote)

theorem DeploymentStore.Filled.mono {s s' : DeploymentStore} {e : Exchange} (h : s.Filled e)
    (hs : s.Extends s') : s'.Filled e := by
  intro d k hcall hsmooth hkey
  obtain ⟨d', hd'⟩ := h d k hcall hsmooth hkey
  obtain ⟨d'', hd'', -⟩ := hs.current k d' hd'
  exact ⟨d'', hd''⟩

theorem Worker.Steady.mono {cfg : ReconcileConfig} {s s' : DeploymentStore} {worker : Worker}
    (h : worker.Steady cfg s) (hs : s.Extends s') : worker.Steady cfg s' := by
  cases worker with
  | idle | took _ | settled _ _ => trivial
  | found key f => exact h
  | busy key seen rest =>
      obtain ⟨hf, hd, t, hafter, hfilled⟩ := h
      exact ⟨hf, fun k d hk => hs.wrote k d (hd k d hk), t, hafter,
        fun e he => (hfilled e he).mono hs⟩

theorem FunctionObject.controls_congr (f : FunctionObject) {d d' : Deployment}
    (h : d'.functionUid? = d.functionUid?) : f.controls d' = f.controls d := by
  rw [Bool.eq_iff_iff, FunctionObject.controls_iff, FunctionObject.controls_iff, h]

namespace Operator

variable {cfg : ReconcileConfig} {backoff : Backoff} {t : List Event} {e : Event}
  {w w' : Operator (DeploymentStore.surroundings cfg backoff).State}

/-- What was ever stored under a key is there still, in the hands of the same function; and no more
than that is cached or was read. -/
structure Steady (cfg : ReconcileConfig) (w : Operator DeploymentStore) : Prop where
  stored : ∀ k d, w.surroundings.Wrote k d →
    ∃ d', w.surroundings.current k = some d' ∧ d'.functionUid? = d.functionUid?
  cached : w.index.Holds (fun key f => f.metadata.key? = some key)
    fun k d => w.surroundings.Wrote k d
  workers : ∀ i, (w.workers i).Steady cfg w.surroundings

theorem Steady.congr {w w' : Operator DeploymentStore} (h : w.Steady cfg)
    (hi : w'.index = w.index) (hw : w'.workers = w.workers)
    (hs : w'.surroundings = w.surroundings) : w'.Steady cfg where
  stored := hs ▸ h.stored
  cached := hs ▸ hi ▸ h.cached
  workers := hs ▸ hw ▸ h.workers

theorem Steady.setWorker {w : Operator DeploymentStore} (h : w.Steady cfg) {i : Nat} {s : Worker}
    (hs : s.Steady cfg w.surroundings) : (w.setWorker i s).Steady cfg where
  stored := h.stored
  cached := h.cached
  workers := forall_setWorker h.workers hs

/-- What a reconcile sends to replace a Deployment is controlled by the function that controls what
is stored. -/
theorem Steady.functionUid?_sent {w : Operator DeploymentStore} (h : w.Steady cfg)
    {seen : Observed} {key k : ResourceKey} {sent old : Deployment}
    (hf : ∀ g, seen.function? key = some g → g.metadata.key? = some key)
    (hd : ∀ k d, seen.deployment? k = some d → w.surroundings.Wrote k d)
    (hpermitted : (Call.updateDeployment sent).Permitted cfg seen key)
    (hkey : sent.metadata.key? = some k) (hold : w.surroundings.current k = some old) :
    sent.functionUid? = old.functionUid? := by
  obtain ⟨f, owner, secrets, current, hread, hname, howner, hseen, howned, rfl⟩ :=
    hpermitted sent rfl
  have hmade := madeFor_replacement howner cfg secrets current
  rw [hmade.key? (hf f hread) hname] at hkey
  cases hkey
  obtain ⟨old', hold', hsame⟩ := h.stored _ current (hd _ current hseen)
  rw [hold] at hold'
  cases hold'
  -- the function controls what it has seen, and that is in the same hands as what is stored
  rw [← f.controls_eq_isControlledBy howner] at howned
  obtain ⟨uid, hfuid, huid⟩ := FunctionObject.controls_iff.mp howned
  rw [hmade.functionUid? howner, hfuid, hsame, huid]

theorem Steady.put {w : Operator DeploymentStore} (h : w.Steady cfg) {k : ResourceKey}
    {d : Deployment} (hkey : d.metadata.key? = some k)
    (hsame : ∀ old, w.surroundings.current k = some old → d.functionUid? = old.functionUid?) :
    w.surroundings.Extends (w.surroundings.put k d) ∧
      Steady cfg { w with surroundings := w.surroundings.put k d } := by
  have hextends : w.surroundings.Extends (w.surroundings.put k d) := by
    refine ⟨?_, fun k' d' hwrote => hwrote.put k d⟩
    intro k' old hold
    by_cases hk : k' = k
    · subst hk
      exact ⟨d, w.surroundings.current_put_self k' d, hsame old hold⟩
    · exact ⟨old, (w.surroundings.current_put_of_ne hk d).trans hold, rfl⟩
  refine ⟨hextends, ?_, ?_, fun i => (h.workers i).mono hextends⟩
  · rintro k' d' ⟨hmem, hkey'⟩
    rcases List.mem_cons.mp hmem with rfl | hmem
    · rw [hkey] at hkey'
      cases hkey'
      exact ⟨d', w.surroundings.current_put_self k d', rfl⟩
    · obtain ⟨old, hold, huid⟩ := h.stored k' d' ⟨hmem, hkey'⟩
      obtain ⟨new, hnew, hnewUid⟩ := hextends.current k' old hold
      exact ⟨new, hnew, hnewUid.trans huid⟩
  · exact h.cached.mono (fun _ _ hf => hf) fun _ _ hwrote => hwrote.put k d

theorem Steady.call {w : Operator DeploymentStore} (h : w.Steady cfg) {i : Nat}
    {key : ResourceKey} {seen : Observed} {c : Call} {next : c.Answer → Attempt Outcome}
    {a : c.Answer} {s : DeploymentStore} (hi : w.workers i = .busy key seen (.call c next))
    (ha : w.surroundings.Answers c a s) :
    w.surroundings.Extends s ∧
      Steady cfg { w.setWorker i (.busy key seen (next a)) with surroundings := s } := by
  have hbusy := h.workers i
  rw [hi] at hbusy
  obtain ⟨hf, hd, t, hafter, hfilled⟩ := hbusy
  have hpermitted := (hafter.only (sync_only cfg seen key)).1
  -- the store goes on
  have hstore : w.surroundings.Extends s ∧ Steady cfg { w with surroundings := s } := by
    rcases ha.effect with rfl | ⟨sent, stored, k, hkey, hkeeps, rfl, hc⟩
    · exact ⟨.refl _, h⟩
    · refine h.put (hkeeps.key?.trans hkey) ?_
      intro old hold
      rw [hkeeps.functionUid?]
      rcases hc with ⟨rfl, hfree⟩ | ⟨rfl, -⟩
      · rw [hfree] at hold
        cases hold
      · exact h.functionUid?_sent hf hd hpermitted hkey hold
  obtain ⟨hextends, hsteady⟩ := hstore
  -- and so does the worker
  refine ⟨hextends, hsteady.setWorker (i := i) ⟨hf,
    fun k d hk => hextends.wrote k d (hd k d hk), _, hafter.call a, ?_⟩⟩
  intro e he
  rcases List.mem_append.mp he with he | he
  · exact (hfilled e he).mono hextends
  · rw [List.mem_singleton] at he
    subst he
    rintro d k rfl hsmooth hkey
    rcases ha.creates hsmooth hkey with ⟨stored, rfl, -⟩ | ⟨rfl, old, hold⟩
    · exact ⟨stored, w.surroundings.current_put_self k stored⟩
    · exact ⟨old, hold⟩

theorem Steady.step (h : w.Steady cfg)
    (hs : Step (DeploymentStore.surroundings cfg backoff) w e w') (he : e ≠ .moved) :
    w.surroundings.Extends w'.surroundings ∧ w'.Steady cfg := by
  have hrefl := DeploymentStore.Extends.refl w.surroundings
  cases hs with
  | notify hreports =>
      refine ⟨hrefl, h.stored, h.cached.notify (fun _ _ _ hkey => hkey) ?_, h.workers⟩
      intro d hd k hkey
      exact ⟨hreports d hd, hkey⟩
  | resync => exact ⟨hrefl, h.stored, h.cached.resync, h.workers⟩
  | add _ | fire _ | close => exact ⟨hrefl, h.congr rfl rfl rfl⟩
  | @take i k _ _ _ =>
      exact ⟨hrefl, (h.setWorker (i := i) (s := .took k) trivial).congr rfl rfl rfl⟩
  | @find i k hi => exact ⟨hrefl, h.setWorker fun g hg => h.cached.functions k g hg⟩
  | @look i k f hi =>
      have hfound := h.workers i
      rw [hi] at hfound
      refine ⟨hrefl, h.setWorker ⟨hfound, h.cached.deployments, [], .nil, ?_⟩⟩
      intro e he
      cases he
  | call hi ha => exact h.call hi ha
  | @settle i k _ r _ =>
      exact ⟨hrefl, (h.setWorker (i := i) (s := .settled k r) trivial).congr rfl rfl rfl⟩
  | @release i _ _ _ =>
      exact ⟨hrefl, (h.setWorker (i := i) (s := .idle) trivial).congr rfl rfl rfl⟩
  | move _ => exact absurd rfl he

theorem Path.steady (h : Path (DeploymentStore.surroundings cfg backoff) w t w')
    (hw : w.Steady cfg) (hothers : ∀ e ∈ t, e ≠ .moved) :
    w.surroundings.Extends w'.surroundings ∧ w'.Steady cfg := by
  induction h with
  | nil => exact ⟨.refl _, hw⟩
  | step _ hs ih =>
      obtain ⟨hextends, hsteady⟩ := ih fun e he => hothers e (List.mem_cons_of_mem _ he)
      obtain ⟨hextends', hsteady'⟩ := hsteady.step hs (hothers _ List.mem_cons_self)
      exact ⟨hextends.trans hextends', hsteady'⟩

theorem steady_start {s : DeploymentStore} (hs : s.Starts) : (start s).Steady cfg where
  stored := by
    rintro k d ⟨hmem, hkey⟩
    exact ⟨d, hs.stored d hmem k hkey, rfl⟩
  cached := Index.holds_empty
  workers := fun _ => trivial

theorem Run.steady (h : Run (DeploymentStore.surroundings cfg backoff) t w)
    (hothers : ∀ e ∈ t, e ≠ .moved) : w.Steady cfg := by
  induction h with
  | start hs => exact steady_start hs
  | step _ hs ih =>
      have hsteady := ih fun e he => hothers e (List.mem_cons_of_mem _ he)
      exact (hsteady.step hs (hothers _ List.mem_cons_self)).2

/-- A reconcile that has succeeded has left a Deployment of the declared name, in the hands that it
says. -/
theorem Steady.ended {w : Operator DeploymentStore} (h : w.Steady cfg) {i : Nat}
    {key : ResourceKey} {seen : Observed} {f : FunctionObject} {o : Outcome}
    (hi : w.workers i = .busy key seen (.done (.ok o))) (hf : seen.function? key = some f)
    (ho : o ≠ .skipped) :
    ∃ d, w.surroundings.current ⟨key.ns, f.spec.name⟩ = some d ∧
      (o = .updated ∨ o = .unchanged → f.controls d = true) ∧
      (o = .conflict → f.controls d = false) := by
  have hbusy := h.workers i
  rw [hi] at hbusy
  obtain ⟨hkey, hseen, t, hafter, hfilled⟩ := hbusy
  obtain ⟨owner, howner, hname, hyields⟩ := yields_syncOwned hf hafter.yields ho
  have houtcome := eq_of_yields_syncOwned howner hyields
  cases hcurrent : seen.deployment? ⟨key.ns, f.spec.name⟩ with
  | none =>
      -- it was created, or something was there by then
      rw [hcurrent] at hyields houtcome
      subst houtcome
      obtain ⟨t₁, created, t₂, rfl, hcreate, -⟩ := Attempt.yields_andThen_ok hyields
      obtain ⟨d, answer, hmem, hsmooth, hmade⟩ := sent_of_yields_createWorkload howner hcreate
      obtain ⟨d', hd'⟩ := hfilled _ (List.mem_append_left _ hmem) d _ rfl hsmooth
        (hmade.key? (hkey f hf) hname)
      exact ⟨d', hd', fun h => (by rcases h with h | h <;> cases h), fun h => by cases h⟩
  | some d =>
      rw [hcurrent] at houtcome
      obtain ⟨d', hd', hsame⟩ := h.stored _ d (hseen _ d hcurrent)
      refine ⟨d', hd', ?_, ?_⟩
      · rw [f.controls_congr hsame, houtcome, FunctionObject.decision]
        cases f.controls d with
        | true => exact fun _ => rfl
        | false => exact fun h => by rcases h with h | h <;> cases h
      · rw [f.controls_congr hsame, houtcome, FunctionObject.decision]
        cases f.controls d with
        | true => cases needsUpdate f.spec d <;> exact fun h => by cases h
        | false => exact fun _ => rfl

/-! ## The Deployments of a function -/

/-- A function owns one Deployment as long as it is not renamed.  At any time, whatever a function
controls goes by a name that some version of it has declared; so it controls one Deployment at most
if all versions have declared the same name.  And once a reconcile has succeeded with the version
that it has read, this one can only be the one of the declared name; if nobody else has written or
removed anything it is there, renamed or not, and it is the function's own if the reconcile left it
as it was or updated it. -/
theorem owned_by_declared_name (h : Run (DeploymentStore.surroundings cfg backoff) t w) :
    (∀ k d uid, w.surroundings.current k = some d → d.functionUid? = some uid → Claims t uid k) ∧
    (∀ uid, Unrenamed t uid → ∀ k k' d d', w.surroundings.current k = some d →
      w.surroundings.current k' = some d' → d.functionUid? = some uid →
      d'.functionUid? = some uid → k = k') ∧
    ∀ i key seen f o, w.workers i = .busy key seen (.done (.ok o)) →
      seen.function? key = some f →
      ∀ t' w', Path (DeploymentStore.surroundings cfg backoff) w t' w' →
        (∀ uid k d, f.metadata.uid = some uid → Unrenamed (t' ++ t) uid →
          w'.surroundings.current k = some d → d.functionUid? = some uid →
          k = ⟨key.ns, f.spec.name⟩) ∧
        (o ≠ .skipped → (∀ e ∈ t' ++ t, e ≠ .moved) →
          ∃ d, w'.surroundings.current ⟨key.ns, f.spec.name⟩ = some d ∧
            (o = .updated ∨ o = .unchanged → f.controls d = true) ∧
            (o = .conflict → f.controls d = false)) := by
  have hnamed := h.named
  refine ⟨hnamed.stored, ?_, ?_⟩
  · intro uid hname k k' d d' hd hd' huid huid'
    exact hnamed.eq_of_unrenamed hname hd huid (hnamed.stored k' d' uid hd' huid')
  · intro i key seen f o hi hf t' w' hpath
    have hread := hnamed.workers i
    rw [hi] at hread
    obtain ⟨hkey, hdeclared⟩ := hread.1 f hf
    constructor
    · intro uid k d hfuid hname hd huid
      obtain ⟨hns, -⟩ := ObjectMeta.key?_eq_some_iff.mp hkey
      have hclaims : Claims (t' ++ t) uid ⟨key.ns, f.spec.name⟩ :=
        ⟨f, hdeclared.append t', hfuid, hns, rfl⟩
      exact (h.append hpath).named.eq_of_unrenamed hname hd huid hclaims
    · intro ho hothers
      have hsteady := h.steady fun e he => hothers e (List.mem_append_right t' he)
      obtain ⟨d, hd, howned, hforeign⟩ := hsteady.ended hi hf ho
      obtain ⟨hextends, -⟩ := hpath.steady hsteady fun e he => hothers e (List.mem_append_left t he)
      obtain ⟨d', hd', hsame⟩ := hextends.current _ d hd
      rw [← f.controls_congr hsame] at howned hforeign
      exact ⟨d', hd', howned, hforeign⟩

def namedFunction (name : String) : FunctionObject :=
  { newFunction with spec := { newFunction.spec with name := name } }

def namedDeployment (name : String) : Deployment :=
  (namedFunction name).deployment newOwner ∅ .always

abbrev namedSurroundings : Surroundings := DeploymentStore.surroundings ⟨.always, false⟩ .default

def emptyStore : DeploymentStore := ⟨fun _ => none, []⟩

theorem starts_emptyStore : emptyStore.Starts where
  uncontrolled := fun _ _ h => by cases h
  stored := fun _ h => by cases h

/-- What happens until a function has its Deployment, the latest first. -/
def createdEvents (name : String) : List Event := [
  .called 0 newKey (.publish (syncedNotice (namedFunction name))) (),
  .called 0 newKey (.createDeployment (namedDeployment name)) (Except.ok (namedDeployment name)),
  .called 0 newKey (.createService ((namedFunction name).service newOwner)) (Except.ok ()),
  .looked 0 newKey,
  .found 0 newKey (some (namedFunction name)),
  .took 0 newKey,
  .added newKey,
  .notified (.applyFunction (namedFunction name)) [newKey]]

theorem run_created : ∃ w, Run namedSurroundings (createdEvents "a") w ∧
    w.index = (Index.applyFunction (namedFunction "a") .empty).1 ∧
    w.queue = { WorkQueue.empty with processing := [newKey] } ∧ w.routing = [] ∧
    w.workers 0 = .busy newKey ⟨fun _ => some (namedFunction "a"), w.index.deployment?⟩
      (.done (.ok .created)) ∧
    w.surroundings = emptyStore.put ⟨"openfaas-fn", "a"⟩ (namedDeployment "a") := by
  have h₀ : Run namedSurroundings [] (start emptyStore) := .start starts_emptyStore
  have h₁ := h₀.step (.notify (n := .applyFunction (namedFunction "a")) fun _ hd => by cases hd)
  have h₂ := h₁.step (.add (k := newKey) List.mem_cons_self)
  have h₃ := h₂.step (.take (i := 0) rfl rfl)
  have h₄ := h₃.step (.find (i := 0) (k := newKey) rfl)
  have h₅ := h₄.step (.look (i := 0) (k := newKey) (f := some (namedFunction "a")) rfl)
  have h₆ := h₅.step (.call (i := 0) (k := newKey)
    (c := .createService ((namedFunction "a").service newOwner)) (a := Except.ok ()) rfl .service)
  have h₇ := h₆.step (.call (i := 0) (k := newKey) (c := .createDeployment (namedDeployment "a"))
    (a := Except.ok (namedDeployment "a")) rfl
    (.created (k := ⟨"openfaas-fn", "a"⟩) rfl rfl ⟨rfl, rfl, rfl, rfl⟩ (.inl rfl)))
  have h := h₇.step (.call (i := 0) (k := newKey)
    (c := .publish (syncedNotice (namedFunction "a"))) (a := ()) rfl .published)
  exact ⟨_, h, rfl, rfl, rfl, rfl, rfl⟩

theorem not_moved_createdEvents (name : String) : ∀ e ∈ createdEvents name, e ≠ .moved := by
  simp [createdEvents]

theorem eq_of_declared_createdEvents {name : String} {f : FunctionObject}
    (h : Declared (createdEvents name) f) : f = namedFunction name := by
  obtain ⟨n, keys, hmem, hf⟩ := h
  have hn : n = .applyFunction (namedFunction name) := by
    simp only [createdEvents, List.mem_cons, List.not_mem_nil, or_false, reduceCtorEq, false_or,
      Event.notified.injEq] at hmem
    exact hmem.1
  rw [hn] at hf
  exact List.mem_singleton.mp hf

theorem unrenamed_createdEvents (name uid : String) : Unrenamed (createdEvents name) uid := by
  intro f g k hf hg _ _ hnames
  rw [eq_of_declared_createdEvents hg, ← eq_of_declared_createdEvents hf]
  exact hnames

theorem owned_by_declared_name_created : ∃ w, Run namedSurroundings (createdEvents "a") w ∧
    w.workers 0 = .busy newKey ⟨fun _ => some (namedFunction "a"), w.index.deployment?⟩
      (.done (.ok .created)) ∧
    (∀ k d, w.surroundings.current k = some d → d.functionUid? = some "8f3c5e1a" →
      k = ⟨"openfaas-fn", "a"⟩) ∧
    ∃ d, w.surroundings.current ⟨"openfaas-fn", "a"⟩ = some d := by
  obtain ⟨w, h, -, -, -, hi, -⟩ := run_created
  obtain ⟨-, -, hended⟩ := owned_by_declared_name h
  obtain ⟨honly, hthere⟩ := hended 0 newKey _ (namedFunction "a") .created hi rfl [] w .nil
  obtain ⟨d, hd, -⟩ := hthere (fun h => by cases h) (not_moved_createdEvents "a")
  refine ⟨w, h, hi, ?_, d, hd⟩
  intro k d hd huid
  exact honly "8f3c5e1a" k d rfl (unrenamed_createdEvents "a" "8f3c5e1a") hd huid

/-- Once a function is renamed, it controls two Deployments, although nobody else has written
anything and the reconcile has succeeded with what the function declares now. -/
theorem renamed_function_controls_two : ∃ w, Run namedSurroundings
      (createdEvents "b" ++
        [.released 0 newKey, .settled 0 newKey (.ok .created)] ++ createdEvents "a") w ∧
    w.index.function? newKey = some (namedFunction "b") ∧
    w.workers 0 = .busy newKey ⟨fun _ => some (namedFunction "b"), w.index.deployment?⟩
      (.done (.ok .created)) ∧
    ∃ a b, w.surroundings.current ⟨"openfaas-fn", "a"⟩ = some a ∧
      w.surroundings.current ⟨"openfaas-fn", "b"⟩ = some b ∧
      (namedFunction "b").controls a = true ∧ (namedFunction "b").controls b = true := by
  obtain ⟨⟨index, queue, routing, delayed, workers, s⟩, h₀, rfl, rfl, rfl, hi, rfl⟩ := run_created
  have h₁ := h₀.step (.settle hi)
  have h₂ := h₁.step (.release (i := 0) (k := newKey) (r := .ok .created) rfl)
  -- the function is renamed, and reconciled once more
  have h₃ := h₂.step (.notify (n := .applyFunction (namedFunction "b")) fun _ hd => by cases hd)
  have h₄ := h₃.step (.add (k := newKey) List.mem_cons_self)
  have h₅ := h₄.step (.take (i := 0) rfl rfl)
  have h₆ := h₅.step (.find (i := 0) (k := newKey) rfl)
  have h₇ := h₆.step (.look (i := 0) (k := newKey) (f := some (namedFunction "b")) rfl)
  have h₈ := h₇.step (.call (i := 0) (k := newKey)
    (c := .createService ((namedFunction "b").service newOwner)) (a := Except.ok ()) rfl .service)
  have h₉ := h₈.step (.call (i := 0) (k := newKey) (c := .createDeployment (namedDeployment "b"))
    (a := Except.ok (namedDeployment "b")) rfl
    (.created (k := ⟨"openfaas-fn", "b"⟩) rfl rfl ⟨rfl, rfl, rfl, rfl⟩ (.inl rfl)))
  have h := h₉.step (.call (i := 0) (k := newKey)
    (c := .publish (syncedNotice (namedFunction "b"))) (a := ()) rfl .published)
  exact ⟨_, h, rfl, rfl, namedDeployment "a", namedDeployment "b", rfl, rfl, rfl, rfl⟩

end Operator

end FaasOperator
