/-
# `FaasOperator.Proofs.Operator.ResyncRound` — one resync is enough, and the next one is silent

## What is proved

Suppose that the cache mirrors the store, nobody else writes, no call fails but because something is
there already, and no status is reported.  Then a resync, once its keys are processed and all news
is delivered, in whatever order the workers and the store went on, has this effect
(`resync_round_settles`):

* every function that can own something finds a Deployment of the name that it declares, in the
  cache and in the store, which needs no update if the function controls it;
* in another resync round no call is made but to publish events.

## How

A resync makes every key pass through a worker, and a pass ends with the function's Deployment in
line as it was, or with a Deployment stored since (`Progress`).  What was stored since was made for
a function that is cached, and functions have uids of their own, so that it needs no update by the
function that controls it (`Deployment.Made.inLine`).  `Round` is what stays true during all this,
whatever the order.
-/
import FaasOperator.Proofs.Operator.LastPass
import FaasOperator.Proofs.Operator.Store
import FaasOperator.Proofs.Reconcile.Converged

namespace FaasOperator

open Plan

/-! ## What is made for cached functions -/

section Made

variable {F : ResourceKey → Option FunctionObject} {d : Deployment} {f : FunctionObject}
  {key : ResourceKey}

def DistinctUids (F : ResourceKey → Option FunctionObject) : Prop :=
  ∀ k k' f f' uid, F k = some f → F k' = some f' → f.metadata.uid = some uid →
    f'.metadata.uid = some uid → k = k'

/-- The Deployment is made for one of the functions. -/
def Deployment.Made (F : ResourceKey → Option FunctionObject) (d : Deployment) : Prop :=
  ∃ k f owner, F k = some f ∧ f.ownerReference? = some owner ∧ d.MadeFor f owner

theorem Deployment.Made.inLine (h : d.Made F) (hF : DistinctUids F) (hf : F key = some f) :
    f.InLine (some d) := by
  obtain ⟨k, g, owner, hg, howner, hmade⟩ := h
  refine ⟨d, rfl, ?_⟩
  intro hcontrols
  obtain ⟨uid, hfuid, huid⟩ := FunctionObject.controls_iff.mp hcontrols
  have hguid : g.metadata.uid = some uid := (hmade.functionUid? howner).symm.trans huid
  -- the function that controls it is the one that it is made for
  have hkey : key = k := hF key k f g uid hf hg hfuid hguid
  rw [hkey, hg] at hf
  cases hf
  exact hmade.needsUpdate

theorem Call.SendsSeen.made {c : Call} {k : ResourceKey} (h : c.SendsSeen (F k)) {sent : Deployment}
    (hsent : c.sent? = some sent) (hkeeps : DeploymentStore.Keeps sent d) : d.Made F := by
  obtain ⟨f, owner, hf, -, howner, hmade⟩ := h sent hsent
  exact ⟨k, f, owner, hf, howner, hkeeps.madeFor hmade⟩

end Made

/-- The worker has the cached function in hand, and sends nothing but what is made for it. -/
def Worker.AtWorkOn (F : ResourceKey → Option FunctionObject) : Worker → Prop
  | .idle | .took _ | .settled _ _ => True
  | .found key f => f = F key
  | .busy key _ rest => rest.Only (Call.SendsSeen (F key))

/-- The call sends a Deployment that goes by the key: to replace another, or to be created where
there was none at the start. -/
def Call.Fills (O : ResourceKey → Option Deployment) (k : ResourceKey) (c : Call) : Prop :=
  ∃ d, d.metadata.key? = some k ∧
    ((c = .createDeployment d ∧ O k = none) ∨ c = .updateDeployment d)

/-- The worker holds the key, and is not done with it before it has sent a Deployment that goes by
`k`. -/
def Worker.Leads (O : ResourceKey → Option Deployment) (key k : ResourceKey) : Worker → Prop
  | .took key' | .found key' _ => key' = key
  | .busy key' _ rest => key' = key ∧ rest.Meets Call.Smooth (Call.Fills O k) fun _ => False
  | .idle | .settled _ _ => False

/-- The worker has nothing left to do but to publish. -/
def Worker.OnlyPublishes : Worker → Prop
  | .idle | .took _ | .found _ _ | .settled _ _ => True
  | .busy _ _ rest => rest.Only Call.Publishes

/-- Nobody else writes, no call fails but because something is there already, and the news is of
single Deployments. -/
def Event.Calm : Event → Prop
  | .notified n _ => ∃ d, n = .applyDeployment d
  | .called _ _ c a => ∀ e, c.error? a = some e → e.isAlreadyExists = true
  | .moved => False
  | .resynced _ | .added _ | .took _ _ | .found _ _ _ | .looked _ _ | .settled _ _ _ | .released _ _
  | .closed => True

namespace Operator

variable {cfg : ReconcileConfig} {backoff : Backoff} {e : Event} {t : List Event}
  {w w' : Operator (DeploymentStore.surroundings cfg backoff).State}
  {F : ResourceKey → Option FunctionObject} {O : ResourceKey → Option Deployment}

/-- The cache mirrors the store.  Functions are cached under their own keys and have uids of their
own, and whoever is at work is at work on what is cached. -/
structure Mirrors (w : Operator DeploymentStore) : Prop where
  deployments : w.index.deployment? = w.surroundings.current
  reported : w.surroundings.news = []
  functions : ∀ k f, w.index.function? k = some f → f.metadata.key? = some k
  distinct : DistinctUids w.index.function?
  workers : ∀ i, (w.workers i).AtWorkOn w.index.function?

/-! ## During a round -/

/-- How things are during a round, with the functions `F` and what was stored at the start. -/
structure Round (F : ResourceKey → Option FunctionObject) (O : ResourceKey → Option Deployment)
    (w : Operator DeploymentStore) : Prop where
  functions : w.index.function? = F
  cached : ∀ k, w.index.deployment? k = O k ∨
    ∃ d, w.surroundings.Wrote k d ∧ w.index.deployment? k = some d
  current : ∀ k, (w.surroundings.current k = O k ∧ ∀ d, ¬w.surroundings.Wrote k d) ∨
    ∃ d, w.surroundings.Wrote k d ∧ w.surroundings.current k = some d
  made : ∀ d ∈ w.surroundings.news, d.Made F
  workers : ∀ i, (w.workers i).AtWorkOn F

theorem Mirrors.round {w : Operator DeploymentStore} (h : w.Mirrors) :
    w.Round w.index.function? w.surroundings.current where
  functions := rfl
  cached := fun k => .inl (congrFun h.deployments k)
  current := by
    intro k
    refine .inl ⟨rfl, fun d hd => ?_⟩
    rw [DeploymentStore.Wrote, h.reported] at hd
    exact absurd hd.1 List.not_mem_nil
  made := by
    rw [h.reported]
    exact fun d hd => absurd hd List.not_mem_nil
  workers := h.workers

theorem Round.congr {w w' : Operator DeploymentStore} (h : w.Round F O) (hi : w'.index = w.index)
    (hw : w'.workers = w.workers) (hs : w'.surroundings = w.surroundings) : w'.Round F O where
  functions := hi ▸ h.functions
  cached := hs ▸ hi ▸ h.cached
  current := hs ▸ h.current
  made := hs ▸ h.made
  workers := hw ▸ h.workers

theorem Round.setWorker {w : Operator DeploymentStore} (h : w.Round F O) {i : Nat} {s : Worker}
    (hs : s.AtWorkOn F) : (w.setWorker i s).Round F O where
  functions := h.functions
  cached := h.cached
  current := h.current
  made := h.made
  workers := forall_setWorker h.workers hs

theorem Round.notify {w : Operator DeploymentStore} (h : w.Round F O) {d : Deployment}
    (hd : d ∈ w.surroundings.news) {keys : List ResourceKey} :
    Round F O { w with index := (w.index.notify (.applyDeployment d)).1, routing := keys } where
  functions := (Index.function?_applyDeployment d w.index).trans h.functions
  cached := by
    intro k
    have hequation := Index.deployment?_applyDeployment d w.index k
    by_cases hkey : d.metadata.key? = some k
    · rw [if_pos hkey] at hequation
      exact .inr ⟨d, ⟨hd, hkey⟩, hequation⟩
    · rw [if_neg hkey] at hequation
      show (Index.applyDeployment d w.index).1.deployment? k = O k ∨
        ∃ d', w.surroundings.Wrote k d' ∧
          (Index.applyDeployment d w.index).1.deployment? k = some d'
      rw [hequation]
      exact h.cached k
  current := h.current
  made := h.made
  workers := h.workers

theorem Round.put {w : Operator DeploymentStore} (h : w.Round F O) {k : ResourceKey}
    {d : Deployment} (hkey : d.metadata.key? = some k) (hd : d.Made F) :
    Round F O { w with surroundings := w.surroundings.put k d } where
  functions := h.functions
  cached := by
    intro k'
    refine (h.cached k').imp id ?_
    rintro ⟨d', hwrote, hcached⟩
    exact ⟨d', hwrote.put k d, hcached⟩
  current := by
    intro k'
    by_cases hk : k' = k
    · rw [hk]
      exact .inr ⟨d, ⟨List.mem_cons_self, hkey⟩, w.surroundings.current_put_self k d⟩
    · show ((w.surroundings.put k d).current k' = O k' ∧
          ∀ d', ¬(w.surroundings.put k d).Wrote k' d') ∨
        ∃ d', (w.surroundings.put k d).Wrote k' d' ∧ (w.surroundings.put k d).current k' = some d'
      rw [w.surroundings.current_put_of_ne hk]
      refine (h.current k').imp ?_ ?_
      · rintro ⟨hcurrent, hnone⟩
        refine ⟨hcurrent, ?_⟩
        rintro d' ⟨hmem, hkey'⟩
        rcases List.mem_cons.mp hmem with rfl | hmem
        · rw [hkey] at hkey'
          exact hk (Option.some.inj hkey').symm
        · exact hnone d' ⟨hmem, hkey'⟩
      · rintro ⟨d', hwrote, hcurrent⟩
        exact ⟨d', hwrote.put k d, hcurrent⟩
  made := List.forall_mem_cons.mpr ⟨hd, h.made⟩
  workers := h.workers

theorem Round.call {w : Operator DeploymentStore} (h : w.Round F O) {k : ResourceKey} {c : Call}
    {a : c.Answer} {s : DeploymentStore} (hsends : c.SendsSeen (F k))
    (ha : w.surroundings.Answers c a s) : Round F O { w with surroundings := s } := by
  rcases ha.effect with rfl | ⟨sent, stored, k', hkey, hkeeps, rfl, hc⟩
  · exact h
  · have hsent : c.sent? = some sent := by
      rcases hc with ⟨rfl, -⟩ | ⟨rfl, -⟩ <;> rfl
    exact h.put (hkeeps.key?.trans hkey) (hsends.made hsent hkeeps)

theorem Round.step (h : w.Round F O) (hs : Step (DeploymentStore.surroundings cfg backoff) w e w')
    (he : e.Calm) : w'.Round F O := by
  cases hs with
  | notify hreports =>
      obtain ⟨d, rfl⟩ := he
      exact h.notify (hreports d List.mem_cons_self)
  | resync => exact ⟨h.functions, h.cached, h.current, h.made, h.workers⟩
  | add _ | fire _ | close => exact h.congr rfl rfl rfl
  | @take i k _ _ _ => exact (h.setWorker (i := i) (s := .took k) trivial).congr rfl rfl rfl
  | @find i k _ => exact h.setWorker (congrFun h.functions k)
  | @look i k f hi =>
      have hfound := h.workers i
      rw [hi] at hfound
      have hsends := sync_sends cfg ⟨fun _ => f, w.index.deployment?⟩ k
      rw [show f = F k from hfound] at hsends ⊢
      exact h.setWorker hsends
  | @call i k seen c next a s hi hanswer =>
      have hbusy := h.workers i
      rw [hi] at hbusy
      exact (h.setWorker (s := .busy k seen (next a)) (hbusy.2 a)).call hbusy.1 hanswer
  | @settle i k _ r _ => exact (h.setWorker (i := i) (s := .settled k r) trivial).congr rfl rfl rfl
  | @release i _ _ _ => exact (h.setWorker (i := i) (s := .idle) trivial).congr rfl rfl rfl
  | move _ => exact absurd he id

/-! ## Every key passes -/

section Keys

variable {S : Surroundings} {w w' : Operator S.State} {key : ResourceKey}

theorem Step.routed (hs : Step S w e w') (hopen : w'.queue.closed = false)
    (h : key ∈ w.routing) : key ∈ w'.routing ∨ key ∈ w'.queue.dirty := by
  cases hs with
  | notify _ | resync => exact .inl (List.mem_append_left _ h)
  | @add k _ =>
      by_cases hk : key = k
      · rw [hk]
        refine .inr (WorkQueue.mem_dirty_add.mpr (.inr ⟨rfl, ?_⟩))
        exact (WorkQueue.closed_add k w.queue).symm.trans hopen
      · exact .inl ((List.mem_erase_of_ne hk).mpr h)
  | fire _ | take _ _ | find _ | look _ | call _ _ | settle _ | release _ | move _ | close =>
      exact .inl h

theorem Step.mem_routing {keys : List ResourceKey} (hs : Step S w (.resynced keys) w')
    {f : FunctionObject} (hf : w.index.function? key = some f) : key ∈ w'.routing := by
  cases hs with
  | resync => exact List.mem_append_right _ (Index.mem_resync hf)

theorem Step.dirty (hs : Step S w e w') (h : key ∈ w.queue.dirty) :
    key ∈ w'.queue.dirty ∨ ∃ i, w'.workers i = .took key := by
  cases hs with
  | add _ | fire _ => exact .inl (WorkQueue.mem_dirty_add.mpr (.inl h))
  | @take i k _ _ hget =>
      by_cases hk : key = k
      · rw [hk]
        exact .inr ⟨i, workers_setWorker_self w i (.took k)⟩
      · exact .inl ((WorkQueue.mem_dirty_get hget).mpr ⟨h, hk⟩)
  | settle _ => exact .inl ((WorkQueue.settle_spec _ _ _ _).2.2 key h)
  | notify _ | resync | find _ | look _ | call _ _ | release _ | move _ | close => exact .inl h

end Keys

/-! ## A pass over a key -/

section Pass

variable {key k : ResourceKey} {f : FunctionObject} {owner : OwnerReference}

/-- The function's Deployment was in line at the start, or one was stored since. -/
def Passed (O : ResourceKey → Option Deployment) (f : FunctionObject) (k : ResourceKey)
    (w : Operator DeploymentStore) : Prop :=
  (∃ d, w.surroundings.Wrote k d) ∨ f.InLine (O k)

theorem Passed.step (h : w.Passed O f k)
    (hs : Step (DeploymentStore.surroundings cfg backoff) w e w') (he : e.Calm) :
    w'.Passed O f k := by
  cases hs with
  | call _ ha =>
      refine h.imp ?_ id
      rintro ⟨d, hwrote⟩
      exact ⟨d, ha.wrote hwrote⟩
  | move _ => exact absurd he id
  | notify _ | resync | add _ | fire _ | take _ _ | find _ | look _ | settle _ | release _ | close =>
      exact h

/-- What a worker has seen decides: a Deployment is sent, unless there is one that was stored since
or that is in line. -/
theorem sync_fills (hf : F key = some f) (hkey : f.metadata.key? = some key)
    (hname : f.spec.name.isEmpty = false) (howner : f.ownerReference? = some owner)
    (hk : k = ⟨key.ns, f.spec.name⟩) {seen : Observed} (hseen : seen.function? key = F key)
    (hcached : seen.deployment? k = O k) :
    (sync cfg seen key).Meets Call.Smooth (Call.Fills O k) (fun _ => False) ∨
      f.InLine (O k) := by
  rw [hf] at hseen
  subst hk
  cases hO : O ⟨key.ns, f.spec.name⟩ with
  | none =>
      rw [hO] at hcached
      refine .inl ((sync_creates hseen hkey hname howner hcached).mono ?_)
      rintro c ⟨d, rfl, hd⟩
      exact ⟨d, hd, .inl ⟨rfl, hO⟩⟩
  | some current =>
      rw [hO] at hcached
      by_cases howned : f.controls current = true
      · cases hupdate : needsUpdate f.spec current with
        | true =>
            refine .inl ((sync_updates hseen hkey hname howner hcached howned hupdate).mono ?_)
            rintro c ⟨d, rfl, hd⟩
            exact ⟨d, hd, .inr rfl⟩
        | false => exact .inr ⟨current, rfl, fun _ => hupdate⟩
      · exact .inr ⟨current, rfl, fun h => absurd h howned⟩

/-- Once it is sent, a Deployment has been stored under the key: this one, or one that was created
before it. -/
theorem Round.wrote_of_fills {w : Operator DeploymentStore} (h : w.Round F O) {c : Call}
    {a : c.Answer} {s : DeploymentStore} (hc : c.Fills O k) (ha : w.surroundings.Answers c a s)
    (hsmooth : c.Smooth a) : ∃ d, s.Wrote k d := by
  obtain ⟨d, hkey, ⟨rfl, hnone⟩ | rfl⟩ := hc
  · rcases ha.creates hsmooth hkey with ⟨stored, rfl, hkeeps⟩ | ⟨rfl, old, hold⟩
    · exact ⟨stored, List.mem_cons_self, hkeeps.key?.trans hkey⟩
    · rcases h.current k with ⟨hcurrent, -⟩ | ⟨d', hwrote, -⟩
      · rw [hcurrent, hnone] at hold
        cases hold
      · exact ⟨d', hwrote⟩
  · obtain ⟨stored, rfl, hkeeps⟩ := ha.updates hsmooth hkey
    exact ⟨stored, List.mem_cons_self, hkeeps.key?.trans hkey⟩

theorem leads_setWorker {w : Operator DeploymentStore} {i j : Nat} {s : Worker}
    (h : (w.workers i).Leads O key k) (hs : j = i → s.Leads O key k) :
    ((w.setWorker j s).workers i).Leads O key k := by
  by_cases hj : i = j
  · rw [hj, workers_setWorker_self]
    exact hs hj.symm
  · rw [workers_setWorker_of_ne w hj]
    exact h

theorem Round.leads (h : w.Round F O) (hf : F key = some f) (hkey : f.metadata.key? = some key)
    (hname : f.spec.name.isEmpty = false) (howner : f.ownerReference? = some owner)
    (hk : k = ⟨key.ns, f.spec.name⟩) {i : Nat} (hi : (w.workers i).Leads O key k)
    (hs : Step (DeploymentStore.surroundings cfg backoff) w e w') (he : e.Calm) :
    (w'.workers i).Leads O key k ∨ w'.Passed O f k := by
  cases hs with
  | notify _ | resync | add _ | fire _ | close => exact .inl hi
  | move _ => exact absurd he id
  | @take j _ _ hj _ =>
      refine .inl (leads_setWorker hi ?_)
      rintro rfl
      rw [hj] at hi
      exact hi.elim
  | @find j _ hj =>
      refine .inl (leads_setWorker hi ?_)
      rintro rfl
      rw [hj] at hi
      exact hi
  | @look j key' f' hj =>
      by_cases hji : j = i
      · subst hji
        have hfound := h.workers j
        rw [hj] at hi hfound
        cases (hi : key' = key)
        -- what is cached now was there at the start, or was stored since
        rcases h.cached k with hcached | ⟨d, hwrote, -⟩
        · have hseen : (⟨fun _ => f', w.index.deployment?⟩ : Observed).function? key = F key := hfound
          rcases sync_fills hf hkey hname howner hk hseen hcached with hfills | hline
          · rw [workers_setWorker_self]
            exact .inl ⟨rfl, hfills⟩
          · exact .inr (.inr hline)
        · exact .inr (.inl ⟨d, hwrote⟩)
      · exact .inl (leads_setWorker hi fun hj' => absurd hj' hji)
  | @call j key' seen c next a s hj ha =>
      by_cases hji : j = i
      · subst hji
        rw [hj] at hi
        obtain ⟨hkey', hmeets⟩ := hi
        have hsmooth : c.Smooth a := ha.smooth he
        rcases hmeets with hfills | hnext
        · exact .inr (.inl (h.wrote_of_fills hfills ha hsmooth))
        · refine .inl ?_
          show ((w.setWorker j (.busy key' seen (next a))).workers j).Leads O key k
          rw [workers_setWorker_self]
          exact ⟨hkey', hnext a hsmooth⟩
      · exact .inl (leads_setWorker hi fun hj' => absurd hj' hji)
  | @settle j _ _ _ hj =>
      refine .inl (leads_setWorker hi ?_)
      rintro rfl
      rw [hj] at hi
      exact hi.2.elim
  | @release j _ _ hj =>
      refine .inl (leads_setWorker hi ?_)
      rintro rfl
      rw [hj] at hi
      exact hi.elim

/-- The key is still to pass through a worker, or a worker has it in hand, or it has passed. -/
def Progress (O : ResourceKey → Option Deployment) (key : ResourceKey) (f : FunctionObject)
    (k : ResourceKey) (w : Operator DeploymentStore) : Prop :=
  key ∈ w.routing ∨ key ∈ w.queue.dirty ∨ (∃ i, (w.workers i).Leads O key k) ∨ w.Passed O f k

theorem Round.progress (hround : w.Round F O) (hf : F key = some f)
    (hkey : f.metadata.key? = some key) (hname : f.spec.name.isEmpty = false)
    (howner : f.ownerReference? = some owner) (hk : k = ⟨key.ns, f.spec.name⟩)
    (h : w.Progress O key f k) (hs : Step (DeploymentStore.surroundings cfg backoff) w e w')
    (he : e.Calm) (hopen : w'.queue.closed = false) : w'.Progress O key f k := by
  rcases h with hrouting | hdirty | ⟨i, hi⟩ | hpassed
  · exact (hs.routed hopen hrouting).imp id .inl
  · refine .inr ((hs.dirty hdirty).imp id ?_)
    -- a worker that has just taken the key leads to a write, whatever it will see
    rintro ⟨i, hi⟩
    refine .inl ⟨i, ?_⟩
    rw [hi]
    rfl
  · refine .inr (.inr ((hround.leads hf hkey hname howner hk hi hs he).imp ?_ id))
    exact fun hleads => ⟨i, hleads⟩
  · exact .inr (.inr (.inr (hpassed.step hs he)))

end Pass

/-! ## The end of a round -/

section End

variable {key k : ResourceKey} {f : FunctionObject} {owner : OwnerReference}

theorem Path.round (h : Path (DeploymentStore.surroundings cfg backoff) w t w')
    (hround : w.Round F O) (hcalm : ∀ e ∈ t, e.Calm) : w'.Round F O := by
  induction h with
  | nil => exact hround
  | step _ hs ih =>
      have hround' := ih fun e he => hcalm e (List.mem_cons_of_mem _ he)
      exact hround'.step hs (hcalm _ List.mem_cons_self)

theorem Path.progress (h : Path (DeploymentStore.surroundings cfg backoff) w t w')
    (hround : w.Round F O) (hcalm : ∀ e ∈ t, e.Calm) (hopen : w'.queue.closed = false)
    (hf : F key = some f) (hkey : f.metadata.key? = some key)
    (hname : f.spec.name.isEmpty = false) (howner : f.ownerReference? = some owner)
    (hw : w.Progress O key f ⟨key.ns, f.spec.name⟩) :
    w'.Progress O key f ⟨key.ns, f.spec.name⟩ := by
  induction h with
  | nil => exact hw
  | step hpath hs ih =>
      have hcalm' := fun e he => hcalm e (List.mem_cons_of_mem _ he)
      have hprogress := ih hcalm' (hs.closed_eq_false hopen)
      exact (hpath.round hround hcalm').progress hf hkey hname howner rfl hprogress hs
        (hcalm _ List.mem_cons_self) hopen

/-- Where nothing is on its way any more, the key has passed. -/
theorem Progress.passed {w : Operator (DeploymentStore.surroundings cfg backoff).State}
    (h : w.Progress O key f k) (hord : w.Orderly) (hwaiting : w.queue.waiting = [])
    (hprocessing : w.queue.processing = []) (hrouting : w.routing = []) : w.Passed O f k := by
  rcases h with hr | hd | ⟨i, hi⟩ | hpassed
  · rw [hrouting] at hr
    cases hr
  · rw [hord.dirty_eq_nil hwaiting hprocessing] at hd
    cases hd
  · rw [hord.idle hprocessing i] at hi
    exact hi.elim
  · exact hpassed

/-- A Deployment that was stored since is cached under the key. -/
def Fresh (k : ResourceKey) (w : Operator DeploymentStore) : Prop :=
  ∃ d, w.surroundings.Wrote k d ∧ w.index.deployment? k = some d

theorem fresh_notify {w : Operator (DeploymentStore.surroundings cfg backoff).State}
    {d : Deployment} (hd : w.surroundings.Wrote k d) {keys : List ResourceKey} :
    Fresh k { w with index := (w.index.notify (.applyDeployment d)).1, routing := keys } := by
  refine ⟨d, hd, ?_⟩
  have hequation := Index.deployment?_applyDeployment d w.index k
  rw [if_pos hd.2] at hequation
  exact hequation

theorem Fresh.step (h : w.Fresh k) (hs : Step (DeploymentStore.surroundings cfg backoff) w e w')
    (he : e.Calm) : w'.Fresh k := by
  cases hs with
  | notify hreports =>
      obtain ⟨d', rfl⟩ := he
      by_cases hkey : d'.metadata.key? = some k
      · exact fresh_notify ⟨hreports d' List.mem_cons_self, hkey⟩
      · obtain ⟨d, hwrote, hcached⟩ := h
        have hequation := Index.deployment?_applyDeployment d' w.index k
        rw [if_neg hkey] at hequation
        exact ⟨d, hwrote, hequation.trans hcached⟩
  | call _ ha =>
      obtain ⟨d, hwrote, hcached⟩ := h
      exact ⟨d, ha.wrote hwrote, hcached⟩
  | move _ => exact absurd he id
  | resync | add _ | fire _ | take _ _ | find _ | look _ | settle _ | release _ | close => exact h

theorem Path.fresh (h : Path (DeploymentStore.surroundings cfg backoff) w t w')
    (hcalm : ∀ e ∈ t, e.Calm) {d : Deployment} {keys : List ResourceKey}
    (hd : .notified (.applyDeployment d) keys ∈ t) (hkey : d.metadata.key? = some k) :
    w'.Fresh k := by
  induction h with
  | nil => cases hd
  | step _ hs ih =>
      -- delivered just now, or before
      rcases List.mem_cons.mp hd with rfl | hd
      · cases hs with
        | notify hreports => exact fresh_notify ⟨hreports d List.mem_cons_self, hkey⟩
      · have hfresh := ih (fun e he => hcalm e (List.mem_cons_of_mem _ he)) hd
        exact hfresh.step hs (hcalm _ List.mem_cons_self)

/-- With all news delivered, a function whose key has passed finds its Deployment in line, in the
cache and in the store. -/
theorem Round.inLine {w : Operator DeploymentStore} (h : w.Round F O) (hF : DistinctUids F)
    (hf : F key = some f) (hpassed : w.Passed O f k)
    (hfresh : ∀ d, w.surroundings.Wrote k d → w.Fresh k) :
    f.InLine (w.index.deployment? k) ∧ f.InLine (w.surroundings.current k) := by
  have hmade (d : Deployment) (hd : w.surroundings.Wrote k d) : f.InLine (some d) :=
    (h.made d hd.1).inLine hF hf
  rcases hpassed with ⟨d, hwrote⟩ | hline
  · constructor
    · obtain ⟨d', hwrote', hcached⟩ := hfresh d hwrote
      rw [hcached]
      exact hmade d' hwrote'
    · rcases h.current k with ⟨-, hnone⟩ | ⟨d', hwrote', hcurrent⟩
      · exact absurd hwrote (hnone d)
      · rw [hcurrent]
        exact hmade d' hwrote'
  · constructor
    · rcases h.cached k with hcached | ⟨d', hwrote', hcached⟩
      · rw [hcached]
        exact hline
      · rw [hcached]
        exact hmade d' hwrote'
    · rcases h.current k with ⟨hcurrent, -⟩ | ⟨d', hwrote', hcurrent⟩
      · rw [hcurrent]
        exact hline
      · rw [hcurrent]
        exact hmade d' hwrote'

end End

/-! ## A silent round -/

/-- Every function that can own something finds its Deployment in line, and whoever is at work only
publishes. -/
structure Silent (F : ResourceKey → Option FunctionObject) (O : ResourceKey → Option Deployment)
    (w : Operator DeploymentStore) : Prop where
  round : w.Round F O
  line : ∀ key f owner, F key = some f → f.spec.name.isEmpty = false →
    f.ownerReference? = some owner → f.InLine (w.index.deployment? ⟨key.ns, f.spec.name⟩)
  workers : ∀ i, (w.workers i).OnlyPublishes

theorem Silent.step (hcfg : cfg.updateStatus = false) (hF : DistinctUids F) (h : w.Silent F O)
    (hs : Step (DeploymentStore.surroundings cfg backoff) w e w') (he : e.Calm) :
    w'.Silent F O := by
  have hround := h.round.step hs he
  cases hs with
  | notify hreports =>
      obtain ⟨d, rfl⟩ := he
      refine ⟨hround, ?_, h.workers⟩
      intro key f owner hf hname howner
      have hequation := Index.deployment?_applyDeployment d w.index ⟨key.ns, f.spec.name⟩
      show f.InLine ((Index.applyDeployment d w.index).1.deployment? ⟨key.ns, f.spec.name⟩)
      rw [hequation]
      split
      · exact (h.round.made d (hreports d List.mem_cons_self)).inLine hF hf
      · exact h.line key f owner hf hname howner
  | resync | add _ | fire _ | close => exact ⟨hround, h.line, h.workers⟩
  | take _ _ | find _ | settle _ | release _ =>
      exact ⟨hround, h.line, forall_setWorker h.workers trivial⟩
  | @look i k f hi =>
      refine ⟨hround, h.line, forall_setWorker h.workers ?_⟩
      have hfound := h.round.workers i
      rw [hi] at hfound
      refine sync_publishes hcfg ?_
      intro g owner hg hname howner
      exact h.line k g owner (hfound ▸ hg) hname howner
  | @call i k seen c next a s hi _ =>
      have hbusy := h.workers i
      rw [hi] at hbusy
      exact ⟨hround, h.line, forall_setWorker h.workers (hbusy.2 a)⟩
  | move _ => exact absurd he id

theorem Silent.publishes (h : w.Silent F O) {i : Nat} {k : ResourceKey} {c : Call} {a : c.Answer}
    (hs : Step (DeploymentStore.surroundings cfg backoff) w (.called i k c a) w') :
    c.Publishes := by
  cases hs with
  | call hi _ =>
      have hbusy := h.workers i
      rw [hi] at hbusy
      exact hbusy.1

theorem Path.silent (h : Path (DeploymentStore.surroundings cfg backoff) w t w')
    (hcfg : cfg.updateStatus = false) (hF : DistinctUids F) (hw : w.Silent F O)
    (hcalm : ∀ e ∈ t, e.Calm) :
    w'.Silent F O ∧ ∀ i k c a, .called i k c a ∈ t → c.Publishes := by
  induction h with
  | nil => exact ⟨hw, fun _ _ _ _ hmem => absurd hmem List.not_mem_nil⟩
  | step _ hs ih =>
      obtain ⟨hsilent, hcalls⟩ := ih fun e he => hcalm e (List.mem_cons_of_mem _ he)
      refine ⟨hsilent.step hcfg hF hs (hcalm _ List.mem_cons_self), ?_⟩
      intro i k c a hmem
      rcases List.mem_cons.mp hmem with rfl | hmem
      · exact hsilent.publishes hs
      · exact hcalls i k c a hmem

/-! ## Two rounds -/

/-- One resync round settles everything, and the next one is silent.  Suppose that the cache mirrors
the store, nobody else writes, no call fails but because something is there already, and no status
is reported.  Once the keys of a resync are processed and all news is delivered, in whatever order,
every function that can own something finds a Deployment of the name that it declares, which needs
no update if it controls it; and in another resync round no call is made but to publish events. -/
theorem resync_round_settles {w₀ w₁ : Operator DeploymentStore} {keys : List ResourceKey}
    (hcfg : cfg.updateStatus = false) (hmirrors : w₀.Mirrors)
    (hord : Orderly (S := DeploymentStore.surroundings cfg backoff) w₀)
    (hresync : Step (DeploymentStore.surroundings cfg backoff) w₀ (.resynced keys) w₁)
    (hpath : Path (DeploymentStore.surroundings cfg backoff) w₁ t w) (hcalm : ∀ e ∈ t, e.Calm)
    (hopen : w.queue.closed = false) (hwaiting : w.queue.waiting = [])
    (hprocessing : w.queue.processing = []) (hrouting : w.routing = [])
    (hdelivered : ∀ d ∈ w.surroundings.news, ∃ keys, .notified (.applyDeployment d) keys ∈ t) :
    (∀ key f uid, w.index.function? key = some f → f.metadata.uid = some uid →
      f.spec.name.isEmpty = false →
      f.InLine (w.index.deployment? ⟨key.ns, f.spec.name⟩) ∧
      f.InLine (w.surroundings.current ⟨key.ns, f.spec.name⟩)) ∧
    ∀ keys w₂ t' w', Step (DeploymentStore.surroundings cfg backoff) w (.resynced keys) w₂ →
      Path (DeploymentStore.surroundings cfg backoff) w₂ t' w' → (∀ e ∈ t', e.Calm) →
      ∀ i k c a, .called i k c a ∈ t' → c.Publishes := by
  have hround₁ := hmirrors.round.step hresync trivial
  have hround := hpath.round hround₁ hcalm
  have hend := hpath.orderly (hord.step hresync)
  have hF := hmirrors.distinct
  have hline (key : ResourceKey) (f : FunctionObject) (owner : OwnerReference)
      (hf : w₀.index.function? key = some f) (hname : f.spec.name.isEmpty = false)
      (howner : f.ownerReference? = some owner) :
      f.InLine (w.index.deployment? ⟨key.ns, f.spec.name⟩) ∧
        f.InLine (w.surroundings.current ⟨key.ns, f.spec.name⟩) := by
    have hstart : w₁.Progress w₀.surroundings.current key f ⟨key.ns, f.spec.name⟩ :=
      .inl (hresync.mem_routing hf)
    have hprogress := hpath.progress hround₁ hcalm hopen hf (hmirrors.functions key f hf) hname
      howner hstart
    refine hround.inLine hF hf (hprogress.passed hend hwaiting hprocessing hrouting) ?_
    intro d hwrote
    obtain ⟨keys, hmem⟩ := hdelivered d hwrote.1
    exact hpath.fresh hcalm hmem hwrote.2
  constructor
  · intro key f uid hf huid hname
    rw [hround.functions] at hf
    obtain ⟨owner, howner⟩ := FunctionObject.exists_ownerReference (hmirrors.functions key f hf) huid
    exact hline key f owner hf hname howner
  · intro keys w₂ t' w' hresync' hpath' hcalm' i k c a hmem
    have hidle := hend.idle hprocessing
    have hsilent : w.Silent w₀.index.function? w₀.surroundings.current := by
      refine ⟨hround, fun key f owner hf hname howner => (hline key f owner hf hname howner).1, ?_⟩
      intro j
      rw [hidle j]
      trivial
    have hsilent₂ := hsilent.step hcfg hF hresync' trivial
    exact (hpath'.silent hcfg hF hsilent₂ hcalm').2 i k c a hmem

def roundDeployment : Deployment := newFunction.deployment newOwner ∅ .always

abbrev roundSurroundings : Surroundings := DeploymentStore.surroundings ⟨.always, false⟩ .default

def roundStart : Operator DeploymentStore :=
  ⟨(Index.applyFunction newFunction .empty).1, .empty, [], [], fun _ => .idle,
    ⟨fun _ => none, []⟩⟩

theorem eq_of_function?_roundStart {k : ResourceKey} {f : FunctionObject}
    (h : roundStart.index.function? k = some f) : newKey = k ∧ f = newFunction := by
  have hequation := Index.function?_applyFunction newFunction .empty k
  split at hequation
  · rename_i hkey
    exact ⟨Option.some.inj hkey, Option.some.inj (h.symm.trans hequation)⟩
  · cases h.symm.trans hequation

theorem mirrors_roundStart : roundStart.Mirrors where
  deployments := Index.deployment?_applyFunction newFunction .empty
  reported := rfl
  functions := by
    intro k f hf
    obtain ⟨rfl, rfl⟩ := eq_of_function?_roundStart hf
    rfl
  distinct := by
    intro k k' f f' uid hf hf' _ _
    obtain ⟨rfl, -⟩ := eq_of_function?_roundStart hf
    exact (eq_of_function?_roundStart hf').1
  workers := fun _ => trivial

theorem madeFor_roundDeployment : roundDeployment.MadeFor newFunction newOwner :=
  newFunction.madeFor_deployment rfl ∅ .always

/-- Once the Deployment is cached, all that is left of a pass is to publish. -/
theorem busy_round {i : Index} (hd : i.deployment? newKey = some roundDeployment) :
    Worker.busy newKey ⟨fun _ => some newFunction, i.deployment?⟩
        (sync ⟨.always, false⟩ ⟨fun _ => some newFunction, i.deployment?⟩ newKey) =
      .busy newKey ⟨fun _ => some newFunction, i.deployment?⟩
        (.call (.publish (syncedNotice newFunction)) fun () => .done (.ok .unchanged)) := by
  have hsync : sync ⟨.always, false⟩ ⟨fun _ => some newFunction, i.deployment?⟩ newKey =
      syncOwned ⟨.always, false⟩ newFunction newOwner (i.deployment? newKey) :=
    sync_eq_syncOwned rfl rfl rfl
  rw [hsync, hd]
  rw [syncOwned_of_inLine rfl madeFor_roundDeployment.needsUpdate fun h => by cases h]

/-- What happens in a round, the latest first: the Deployment is created and reported, and then the
function passes once more. -/
def roundEvents : List Event := [
  .released 0 newKey,
  .settled 0 newKey (.ok .unchanged),
  .called 0 newKey (.publish (syncedNotice newFunction)) (),
  .looked 0 newKey,
  .found 0 newKey (some newFunction),
  .took 0 newKey,
  .added newKey,
  .notified (.applyDeployment roundDeployment) [newKey],
  .released 0 newKey,
  .settled 0 newKey (.ok .created),
  .called 0 newKey (.publish (syncedNotice newFunction)) (),
  .called 0 newKey (.createDeployment roundDeployment) (Except.ok roundDeployment),
  .called 0 newKey (.createService (newFunction.service newOwner)) (Except.ok ()),
  .looked 0 newKey,
  .found 0 newKey (some newFunction),
  .took 0 newKey,
  .added newKey]

theorem calm_roundEvents : ∀ e ∈ roundEvents, e.Calm := by
  simp [roundEvents, Event.Calm, Call.error?, Call.error?.failure?]

theorem path_round : ∃ w₁ w, Step roundSurroundings roundStart (.resynced [newKey]) w₁ ∧
    Path roundSurroundings w₁ roundEvents w ∧ w.queue = .empty ∧ w.routing = [] ∧
    w.surroundings.news = [roundDeployment] ∧
    w.index.function? newKey = some newFunction := by
  have hresync : Step roundSurroundings roundStart (.resynced [newKey])
      { roundStart with index := roundStart.index.resync.1, routing := [newKey] } := .resync
  -- the Deployment is created
  have h₀ := Path.nil (S := roundSurroundings)
    (w := { roundStart with index := roundStart.index.resync.1, routing := [newKey] })
  have h₁ := h₀.step (.add (k := newKey) List.mem_cons_self)
  have h₂ := h₁.step (.take (i := 0) rfl rfl)
  have h₃ := h₂.step (.find (i := 0) (k := newKey) rfl)
  have h₄ := h₃.step (.look (i := 0) (k := newKey) (f := some newFunction) rfl)
  have h₅ := h₄.step (.call (i := 0) (k := newKey)
    (c := .createService (newFunction.service newOwner)) (a := Except.ok ()) rfl .service)
  have h₆ := h₅.step (.call (i := 0) (k := newKey) (c := .createDeployment roundDeployment)
    (a := Except.ok roundDeployment) rfl
    (.created (k := newKey) rfl rfl ⟨rfl, rfl, rfl, rfl⟩ (.inl rfl)))
  have h₇ := h₆.step (.call (i := 0) (k := newKey) (c := .publish (syncedNotice newFunction))
    (a := ()) rfl .published)
  have h₈ := h₇.step (.settle (i := 0) (k := newKey) (r := .ok .created) rfl)
  have h₉ := h₈.step (.release (i := 0) (k := newKey) (r := .ok .created) rfl)
  -- it is reported, and the function passes again
  have hnews : DeploymentStore.Reports (roundStart.surroundings.put newKey roundDeployment)
      (.applyDeployment roundDeployment) := fun d hd => hd
  have h₁₀ := h₉.step (.notify hnews)
  have h₁₁ := h₁₀.step (.add (k := newKey) List.mem_cons_self)
  have h₁₂ := h₁₁.step (.take (i := 0) rfl rfl)
  have h₁₃ := h₁₂.step (.find (i := 0) (k := newKey) rfl)
  have h₁₄ := h₁₃.step (.look (i := 0) (k := newKey) (f := some newFunction) rfl)
  have h₁₅ := h₁₄.step (.call (i := 0) (k := newKey) (busy_round rfl) .published)
  have h₁₆ := h₁₅.step (.settle (i := 0) (k := newKey) (r := .ok .unchanged) rfl)
  have h := h₁₆.step (.release (i := 0) (k := newKey) (r := .ok .unchanged) rfl)
  exact ⟨_, _, hresync, h, rfl, rfl, rfl, rfl⟩

theorem resync_round_settles_created :
    ∃ w₁ w, Step roundSurroundings roundStart (.resynced [newKey]) w₁ ∧
      Path roundSurroundings w₁ roundEvents w ∧
      newFunction.InLine (w.index.deployment? newKey) ∧
      newFunction.InLine (w.surroundings.current newKey) ∧
      ∀ keys w₂ t w', Step roundSurroundings w (.resynced keys) w₂ →
        Path roundSurroundings w₂ t w' → (∀ e ∈ t, e.Calm) →
        ∀ i k c a, .called i k c a ∈ t → c.Publishes := by
  have hord : Orderly (S := roundSurroundings) roundStart :=
    ⟨WorkQueue.sound_empty, fun _ _ h => (by cases h), fun _ _ _ h => by cases h⟩
  obtain ⟨w₁, w, hresync, hpath, hqueue, hrouting, hnews, hfunction⟩ := path_round
  have hdelivered : ∀ d ∈ w.surroundings.news,
      ∃ keys, .notified (.applyDeployment d) keys ∈ roundEvents := by
    intro d hd
    rw [hnews, List.mem_singleton] at hd
    rw [hd]
    exact ⟨[newKey], by simp [roundEvents]⟩
  have h := resync_round_settles rfl mirrors_roundStart hord hresync hpath calm_roundEvents
    (by rw [hqueue]; rfl) (by rw [hqueue]; rfl) (by rw [hqueue]; rfl) hrouting hdelivered
  obtain ⟨hline, hsilent⟩ := h
  have hlines := hline newKey newFunction "8f3c5e1a" hfunction rfl rfl
  exact ⟨w₁, w, hresync, hpath, hlines.1, hlines.2, hsilent⟩

end Operator

end FaasOperator
