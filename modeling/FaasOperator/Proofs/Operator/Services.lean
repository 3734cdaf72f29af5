/-
# `FaasOperator.Proofs.Operator.Services` — the Service in front of a function

## What is proved

A reconcile makes sure of the Service when it creates the workload, and never looks at it again.  So
(`service_of_success`), in whatever way its calls are answered and others move in between:

* one that has created the workload leaves a Service of the declared name, unless others remove it;
* one that has updated the workload, or found it unchanged, leaves the Service at what others do;
* in every run that starts with Services for all Deployments that functions control, where others
  put no function in control and remove no Service under the key, the Service is there after each of
  these outcomes, and stays, however many functions share the name.

## What fails

A Service that somebody else removes stays away, while the reconciles of the function succeed
(`service_stays_removed`).

## How

The operator writes no Deployment in the name of a function without a Service in front (`Fronting`).
-/
import FaasOperator.Proofs.Operator.ResyncRound
import FaasOperator.Proofs.Reconcile.Fronted

namespace FaasOperator

open Plan

/-- What is stored of a function's workload. -/
structure WorkloadStore where
  deployments : DeploymentStore
  services : ResourceKey → Option Service

namespace WorkloadStore

/-- There is a Service of that name. -/
def Fronted (s : WorkloadStore) (k : ResourceKey) : Prop := ∃ service, s.services k = some service

def putService (s : WorkloadStore) (k : ResourceKey) (service : Service) : WorkloadStore :=
  { s with services := Function.update s.services k (some service) }

def removeService (s : WorkloadStore) (k : ResourceKey) : WorkloadStore :=
  { s with services := Function.update s.services k none }

/-- How a call may be answered.  A Service is created under a name that is free, and the answer may
be lost; the other calls are about Deployments and Secrets. -/
inductive Answers (s : WorkloadStore) : (c : Call) → c.Answer → WorkloadStore → Prop
  | created {sent stored : Service} {k : ResourceKey} {a : Except ClusterError Unit} :
      sent.metadata.key? = some k → s.services k = none → stored.metadata.key? = some k →
      (∀ e, a = .error e → e.isAlreadyExists = false) →
      Answers s (.createService sent) a (s.putService k stored)
  | taken {sent old : Service} {k : ResourceKey} {e : ClusterError} :
      sent.metadata.key? = some k → s.services k = some old → e.isAlreadyExists = true →
      Answers s (.createService sent) (.error e : Except ClusterError Unit) s
  | failed {sent : Service} {e : ClusterError} : e.isAlreadyExists = false →
      Answers s (.createService sent) (.error e : Except ClusterError Unit) s
  | other {c : Call} {a : c.Answer} {deployments : DeploymentStore} :
      (∀ service, c ≠ .createService service) → s.deployments.Answers c a deployments →
      Answers s c a { s with deployments := deployments }

/-- A plan is carried out, and between its calls others make their moves. -/
inductive Carries (moves : WorkloadStore → WorkloadStore → Prop) {α : Type} :
    Plan α → WorkloadStore → α → WorkloadStore → Prop
  | done (a : α) (s : WorkloadStore) : Carries moves (.done a) s a s
  | call {c : Call} {next : c.Answer → Plan α} {s s' s'' : WorkloadStore} {r : α} (a : c.Answer) :
      s.Answers c a s' → Carries moves (next a) s' r s'' → Carries moves (.call c next) s r s''
  | move {p : Plan α} {s s' s'' : WorkloadStore} {r : α} :
      moves s s' → Carries moves p s' r s'' → Carries moves p s r s''

/-- What others do: they write and remove Deployments, but put no function in control; they write
Services, and remove all but those that are to be kept. -/
inductive Moves (kept : ResourceKey → Prop) (s : WorkloadStore) : WorkloadStore → Prop
  | deployments {deployments : DeploymentStore} : s.deployments.Moves deployments →
      Moves kept s { s with deployments := deployments }
  | wroteService {k : ResourceKey} {service : Service} : service.metadata.key? = some k →
      Moves kept s (s.putService k service)
  | removedService {k : ResourceKey} : ¬kept k → Moves kept s (s.removeService k)

/-- If a function controls the Deployment under this key, then there is a Service, should that be
kept. -/
def Backs (kept : ResourceKey → Prop) (s : WorkloadStore) (k : ResourceKey) (d : Deployment) :
    Prop :=
  kept k → d.functionUid? ≠ none → s.Fronted k

/-- There are Services for all Deployments that are stored or may be reported. -/
structure Backed (kept : ResourceKey → Prop) (s : WorkloadStore) : Prop where
  current : ∀ k d, s.deployments.current k = some d → s.Backs kept k d
  wrote : ∀ k d, s.deployments.Wrote k d → s.Backs kept k d

/-- The store as surroundings of the operator. -/
abbrev surroundings (kept : ResourceKey → Prop) (config : ReconcileConfig) (backoff : Backoff) :
    Surroundings :=
  ⟨WorkloadStore, Backed kept, Answers, Moves kept, fun s n => s.deployments.Reports n, config,
    backoff⟩

/-! ## Services -/

variable {kept : ResourceKey → Prop} {s s' s'' : WorkloadStore} {k : ResourceKey}

theorem fronted_putService (s : WorkloadStore) (k : ResourceKey) (service : Service) :
    (s.putService k service).Fronted k :=
  ⟨service, Function.update_self ..⟩

theorem Fronted.putService (h : s.Fronted k) (k' : ResourceKey) (service : Service) :
    (s.putService k' service).Fronted k := by
  by_cases hk : k = k'
  · exact hk ▸ s.fronted_putService k' service
  · obtain ⟨old, hold⟩ := h
    exact ⟨old, (Function.update_of_ne hk ..).trans hold⟩

theorem Fronted.answers {c : Call} {a : c.Answer} (h : s.Fronted k) (ha : s.Answers c a s') :
    s'.Fronted k := by
  cases ha with
  | created _ _ _ _ => exact h.putService _ _
  | taken _ _ _ | failed _ | other _ _ => exact h

theorem Fronted.moves (h : s.Fronted k) (hk : kept k) (hm : s.Moves kept s') : s'.Fronted k := by
  cases hm with
  | deployments _ => exact h
  | wroteService _ => exact h.putService _ _
  | @removedService k' hfree =>
      have hne : k ≠ k' := by
        rintro rfl
        exact hfree hk
      obtain ⟨service, hservice⟩ := h
      exact ⟨service, (Function.update_of_ne hne ..).trans hservice⟩

theorem Answers.fronts {e : Exchange} {service : Service} (ha : s.Answers e.call e.answer s')
    (he : e.Fronts service) (hkey : service.metadata.key? = some k) : s'.Fronted k := by
  obtain ⟨c, a⟩ := e
  obtain ⟨rfl, hnone⟩ := he
  cases ha with
  | @created _ stored k' _ hkey' _ _ _ =>
      rw [hkey] at hkey'
      cases hkey'
      exact s.fronted_putService k stored
  | @taken _ old k' _ hkey' hold _ =>
      rw [hkey] at hkey'
      cases hkey'
      exact ⟨old, hold⟩
  | failed hfailed =>
      have hreport := createReport?_of_not_exists hfailed
      rw [show createReport? _ = none from hnone] at hreport
      cases hreport
  | other hne _ => exact absurd rfl (hne service)

/-- The calls are answered about Deployments as without Services. -/
theorem Answers.toDeployments {c : Call} {a : c.Answer} (ha : s.Answers c a s') :
    s.deployments.Answers c a s'.deployments := by
  cases ha with
  | created _ _ _ _ | taken _ _ _ | failed _ => exact .service
  | other _ ha => exact ha

/-! ## A single reconcile -/

section Pass

variable {moves : WorkloadStore → WorkloadStore → Prop} {α : Type} {p : Plan α} {r : α}

/-- The Service stays unless others remove it. -/
theorem Carries.fronted (h : Carries moves p s r s') (hs : s.Fronted k)
    (hmoves : ∀ s s', moves s s' → s.Fronted k → s'.Fronted k) : s'.Fronted k := by
  induction h with
  | done _ _ => exact hs
  | call _ ha _ ih => exact ih (hs.answers ha)
  | move hm _ ih => exact ih (hmoves _ _ hm hs)

/-- The plan came to its result with exchanges of its own, and a Service that one of them has made
sure of is there unless others removed it. -/
theorem Carries.yields (h : Carries moves p s r s')
    (hmoves : ∀ s s', moves s s' → s.Fronted k → s'.Fronted k) :
    ∃ t, p.Yields t r ∧ ∀ e ∈ t, ∀ service, e.Fronts service → service.metadata.key? = some k →
      s'.Fronted k := by
  induction h with
  | done a _ => exact ⟨[], .done a, fun e he => absurd he List.not_mem_nil⟩
  | @call c next s₁ s₂ s₃ r a ha hrest ih =>
      obtain ⟨t, hyields, hfronts⟩ := ih
      refine ⟨_, .call a hyields, ?_⟩
      intro e he service hservice hkey
      rcases List.mem_cons.mp he with rfl | he
      · exact hrest.fronted (ha.fronts hservice hkey) hmoves
      · exact hfronts e he service hservice hkey
  | move _ _ ih => exact ih

theorem Carries.services_eq (h : Carries moves p s r s')
    (hp : p.Only fun c => ∀ service, c ≠ .createService service)
    (hmoves : ∀ s s', moves s s' → s'.services k = s.services k) :
    s'.services k = s.services k := by
  induction h with
  | done _ _ => rfl
  | call a ha _ ih =>
      refine (ih (hp.2 a)).trans ?_
      cases ha with
      | created _ _ _ _ | taken _ _ _ | failed _ => exact absurd rfl (hp.1 _)
      | other _ _ => rfl
  | move hm _ ih => exact (ih hp).trans (hmoves _ _ hm)

end Pass

section Sync

variable {moves : WorkloadStore → WorkloadStore → Prop} {cfg : ReconcileConfig} {seen : Observed}
  {key : ResourceKey} {f : FunctionObject} {o : Outcome}

theorem Carries.fronted_of_created (hf : seen.function? key = some f)
    (hkey : f.metadata.key? = some key) (h : Carries moves (sync cfg seen key) s (.ok .created) s')
    (hmoves : ∀ s s', moves s s' → s.Fronted ⟨key.ns, f.spec.name⟩ →
      s'.Fronted ⟨key.ns, f.spec.name⟩) : s'.Fronted ⟨key.ns, f.spec.name⟩ := by
  obtain ⟨t, hyields, hfronts⟩ := h.yields hmoves
  obtain ⟨g, owner, hg, hname, hseen | ⟨e, he, hservice⟩⟩ := sync_fronted hyields.after (.inl rfl)
  · -- a Deployment that was seen is not created
    obtain ⟨d, hd, hcontrols⟩ := hseen
    obtain ⟨owner', howner, -, howned⟩ := yields_syncOwned hg hyields (fun h => by cases h)
    have houtcome := eq_of_yields_syncOwned howner howned
    rw [hd, FunctionObject.decision, hcontrols] at houtcome
    cases hupdate : needsUpdate g.spec d with
    | true => simp [hupdate, Decision.outcome] at houtcome
    | false => simp [hupdate, Decision.outcome] at houtcome
  · rw [hf] at hg
    cases hg
    exact hfronts e he _ hservice (f.key?_service hkey hname owner)

theorem Carries.services_eq_of_kept (hf : seen.function? key = some f)
    (ho : o = .updated ∨ o = .unchanged) (h : Carries moves (sync cfg seen key) s (.ok o) s')
    {k : ResourceKey} (hmoves : ∀ s s', moves s s' → s'.services k = s.services k) :
    s'.services k = s.services k := by
  have hskip : o ≠ .skipped := by
    rintro rfl
    rcases ho with h | h <;> cases h
  have hfronted (s s' : WorkloadStore) (hm : moves s s') (hs : s.Fronted k) : s'.Fronted k := by
    rw [Fronted, hmoves s s' hm]
    exact hs
  obtain ⟨t, hyields, -⟩ := h.yields hfronted
  obtain ⟨owner, howner, hname, howned⟩ := yields_syncOwned hf hyields hskip
  have houtcome := eq_of_yields_syncOwned howner howned
  refine h.services_eq ?_ hmoves
  rw [sync_eq_syncOwned hf hname howner]
  cases hcurrent : seen.deployment? ⟨key.ns, f.spec.name⟩ with
  | none =>
      rw [hcurrent] at houtcome
      rw [houtcome] at ho
      rcases ho with h | h <;> cases h
  | some d => exact syncOwned_creates_no_service d

end Sync

/-! ## Runs -/

/-- The Services that are to be kept are there still. -/
def Retains (kept : ResourceKey → Prop) (s s' : WorkloadStore) : Prop :=
  ∀ k, kept k → s.Fronted k → s'.Fronted k

theorem Backs.mono {d : Deployment} (h : s.Backs kept k d) (hs : s.Retains kept s') :
    s'.Backs kept k d :=
  fun hk huid => hs k hk (h hk huid)

theorem Backed.congr (h : s.Backed kept) (hs : s.Retains kept s')
    (hd : s'.deployments = s.deployments) : s'.Backed kept where
  current := by
    intro k d hcurrent
    rw [hd] at hcurrent
    exact (h.current k d hcurrent).mono hs
  wrote := by
    intro k d hwrote
    rw [hd] at hwrote
    exact (h.wrote k d hwrote).mono hs

theorem Backed.put (h : s.Backed kept) {d : Deployment} (hs : s.Retains kept s')
    (hput : s'.deployments = s.deployments.put k d) (hkey : d.metadata.key? = some k)
    (hd : s'.Backs kept k d) : s'.Backed kept where
  current := by
    intro k' d' hcurrent
    rw [hput] at hcurrent
    by_cases hk : k' = k
    · subst hk
      rw [s.deployments.current_put_self] at hcurrent
      cases hcurrent
      exact hd
    · rw [s.deployments.current_put_of_ne hk] at hcurrent
      exact (h.current k' d' hcurrent).mono hs
  wrote := by
    rintro k' d' ⟨hmem, hkey'⟩
    rw [hput] at hmem
    rcases List.mem_cons.mp hmem with rfl | hmem
    · rw [hkey] at hkey'
      cases hkey'
      exact hd
    · exact (h.wrote k' d' ⟨hmem, hkey'⟩).mono hs

theorem Moves.retains (hm : s.Moves kept s') : s.Retains kept s' :=
  fun _ hk hs => hs.moves hk hm

theorem Backed.move (h : s.Backed kept) (hm : s.Moves kept s') : s'.Backed kept := by
  have hretains := hm.retains
  cases hm with
  | wroteService _ | removedService _ => exact h.congr hretains rfl
  | deployments hm =>
      cases hm with
      | @wrote k d hkey hcontrol =>
          refine h.put hretains rfl hkey ?_
          intro hk huid
          -- whoever controls it did so before
          obtain ⟨uid, huid⟩ := Option.ne_none_iff_exists'.mp huid
          obtain ⟨old, hold, hsame⟩ := hcontrol uid huid
          refine h.current k old hold hk ?_
          rw [hsame]
          exact Option.some_ne_none uid
      | @removed k =>
          refine ⟨?_, h.wrote⟩
          intro k' d hcurrent
          rw [s.deployments.current_remove] at hcurrent
          split at hcurrent
          · cases hcurrent
          · exact h.current k' d hcurrent

end WorkloadStore

/-- The worker has read a function under its own key and Deployments with a Service in front, and
the Services that it has made sure of are there. -/
def Worker.Fronting (cfg : ReconcileConfig) (kept : ResourceKey → Prop) (s : WorkloadStore) :
    Worker → Prop
  | .idle | .took _ | .settled _ _ => True
  | .found key f => ∀ g, f = some g → g.metadata.key? = some key
  | .busy key seen rest =>
      (∀ g, seen.function? key = some g → g.metadata.key? = some key) ∧
      (∀ k d, seen.deployment? k = some d → s.Backs kept k d) ∧
      ∃ t, (sync cfg seen key).After t rest ∧ ∀ e ∈ t, ∀ service k, e.Fronts service →
        service.metadata.key? = some k → kept k → s.Fronted k

section Worker

variable {cfg : ReconcileConfig} {kept : ResourceKey → Prop} {s s' : WorkloadStore}

theorem Worker.Fronting.mono {worker : Worker} (h : worker.Fronting cfg kept s)
    (hs : s.Retains kept s') : worker.Fronting cfg kept s' := by
  cases worker with
  | idle | took _ | settled _ _ => trivial
  | found key f => exact h
  | busy key seen rest =>
      obtain ⟨hown, hseen, t, hafter, hfronts⟩ := h
      refine ⟨hown, fun k d hd => (hseen k d hd).mono hs, t, hafter, ?_⟩
      intro e he service k hservice hkey hk
      exact hs k hk (hfronts e he service k hservice hkey hk)

/-- A worker that is about to send a Deployment, or has gone well, has its function fronted. -/
theorem Worker.Fronting.fronted {key : ResourceKey} {seen : Observed} {rest : Attempt Outcome}
    (h : (Worker.busy key seen rest).Fronting cfg kept s) (hrest : rest.Commits)
    {f : FunctionObject} (hf : seen.function? key = some f)
    (hk : kept ⟨key.ns, f.spec.name⟩) : s.Fronted ⟨key.ns, f.spec.name⟩ := by
  obtain ⟨hown, hseen, t, hafter, hfronts⟩ := h
  obtain ⟨g, owner, hg, hname, hcase⟩ := sync_fronted hafter hrest
  rw [hf] at hg
  cases hg
  rcases hcase with ⟨d, hd, hcontrols⟩ | ⟨e, he, hservice⟩
  · obtain ⟨uid, -, huid⟩ := FunctionObject.controls_iff.mp hcontrols
    refine hseen _ d hd hk ?_
    rw [huid]
    exact Option.some_ne_none uid
  · exact hfronts e he _ _ hservice (f.key?_service (hown f hf) hname owner) hk

theorem Worker.Fronting.call {key : ResourceKey} {seen : Observed} {c : Call}
    {next : c.Answer → Attempt Outcome} {a : c.Answer}
    (h : (Worker.busy key seen (.call c next)).Fronting cfg kept s) (hs : s.Backed kept)
    (ha : s.Answers c a s') :
    s.Retains kept s' ∧ s'.Backed kept ∧ (Worker.busy key seen (next a)).Fronting cfg kept s' := by
  have hretains : s.Retains kept s' := fun _ _ hfronted => hfronted.answers ha
  refine ⟨hretains, ?_, ?_⟩
  · rcases ha.toDeployments.effect with hsame | ⟨sent, stored, k, hkey, hkeeps, hput, hc⟩
    · exact hs.congr hretains hsame
    · refine hs.put hretains hput (hkeeps.key?.trans hkey) ?_
      intro hk _
      have hsent : c.sent? = some sent := by
        rcases hc with ⟨rfl, -⟩ | ⟨rfl, -⟩ <;> rfl
      have hfronted {f : FunctionObject} := h.fronted ⟨sent, hsent⟩ (f := f)
      -- it goes by the name that the function declares
      obtain ⟨hown, -, t, hafter, -⟩ := h
      obtain ⟨f, owner, hf, hname, -, hmade⟩ := (hafter.only (sync_sends cfg seen key)).1 sent hsent
      rw [hmade.key? (hown f hf) hname] at hkey
      cases hkey
      exact hretains _ hk (hfronted hf hk)
  · obtain ⟨hown, hseen, t, hafter, hfronts⟩ := h
    refine ⟨hown, fun k d hd => (hseen k d hd).mono hretains, _, hafter.call a, ?_⟩
    intro e he service k hservice hkey hk
    rcases List.mem_append.mp he with he | he
    · exact hretains k hk (hfronts e he service k hservice hkey hk)
    · rw [List.mem_singleton] at he
      subst he
      exact ha.fronts hservice hkey

end Worker

namespace Operator

variable {cfg : ReconcileConfig} {backoff : Backoff} {kept : ResourceKey → Prop} {t : List Event}
  {e : Event} {w w' : Operator (WorkloadStore.surroundings kept cfg backoff).State}

/-- Every Deployment that a function controls has its Service, be it stored, cached or read. -/
structure Fronting (cfg : ReconcileConfig) (kept : ResourceKey → Prop) (w : Operator WorkloadStore) :
    Prop where
  stored : w.surroundings.Backed kept
  cached : w.index.Holds (fun key f => f.metadata.key? = some key) (w.surroundings.Backs kept)
  workers : ∀ i, (w.workers i).Fronting cfg kept w.surroundings

theorem Fronting.congr {w w' : Operator WorkloadStore} (h : w.Fronting cfg kept) (hi : w'.index = w.index)
    (hw : w'.workers = w.workers) (hs : w'.surroundings = w.surroundings) :
    w'.Fronting cfg kept where
  stored := hs ▸ h.stored
  cached := hs ▸ hi ▸ h.cached
  workers := hs ▸ hw ▸ h.workers

theorem Fronting.setWorker {w : Operator WorkloadStore} (h : w.Fronting cfg kept) {i : Nat}
    {s : Worker} (hs : s.Fronting cfg kept w.surroundings) :
    (w.setWorker i s).Fronting cfg kept where
  stored := h.stored
  cached := h.cached
  workers := forall_setWorker h.workers hs

theorem Fronting.surroundings {w : Operator WorkloadStore} (h : w.Fronting cfg kept) {s : WorkloadStore}
    (hretains : w.surroundings.Retains kept s) (hs : s.Backed kept) :
    Fronting cfg kept { w with surroundings := s } where
  stored := hs
  cached := h.cached.mono (fun _ _ hf => hf) fun _ _ hd => hd.mono hretains
  workers := fun i => (h.workers i).mono hretains

theorem Fronting.step (h : w.Fronting cfg kept)
    (hs : Step (WorkloadStore.surroundings kept cfg backoff) w e w') :
    w.surroundings.Retains kept w'.surroundings ∧ w'.Fronting cfg kept := by
  have hrefl : w.surroundings.Retains kept w.surroundings := fun _ _ hk => hk
  cases hs with
  | notify hreports =>
      refine ⟨hrefl, h.stored, h.cached.notify (fun _ _ _ hkey => hkey) ?_, h.workers⟩
      intro d hd k hkey
      exact h.stored.wrote k d ⟨hreports d hd, hkey⟩
  | resync => exact ⟨hrefl, h.stored, h.cached.resync, h.workers⟩
  | add _ | fire _ | close => exact ⟨hrefl, h.congr rfl rfl rfl⟩
  | @take i k _ _ _ =>
      exact ⟨hrefl, (h.setWorker (i := i) (s := .took k) trivial).congr rfl rfl rfl⟩
  | @find i k hi => exact ⟨hrefl, h.setWorker fun g hg => h.cached.functions k g hg⟩
  | @look i k f hi =>
      have hfound := h.workers i
      rw [hi] at hfound
      refine ⟨hrefl, h.setWorker ⟨hfound, h.cached.deployments, [], .nil, ?_⟩⟩
      intro e he
      cases he
  | @call i k seen c next a s hi ha =>
      have hbusy := h.workers i
      rw [hi] at hbusy
      obtain ⟨hretains, hbacked, hnext⟩ := hbusy.call h.stored ha
      exact ⟨hretains, (h.surroundings hretains hbacked).setWorker (i := i) hnext⟩
  | @settle i k _ r _ =>
      exact ⟨hrefl, (h.setWorker (i := i) (s := .settled k r) trivial).congr rfl rfl rfl⟩
  | @release i _ _ _ =>
      exact ⟨hrefl, (h.setWorker (i := i) (s := .idle) trivial).congr rfl rfl rfl⟩
  | move hm => exact ⟨hm.retains, h.surroundings hm.retains (h.stored.move hm)⟩

theorem Run.fronting (h : Run (WorkloadStore.surroundings kept cfg backoff) t w) :
    w.Fronting cfg kept := by
  induction h with
  | start hs => exact ⟨hs, Index.holds_empty, fun _ => trivial⟩
  | step _ hs ih => exact (ih.step hs).2

theorem Path.retains (h : Path (WorkloadStore.surroundings kept cfg backoff) w t w')
    (hw : w.Fronting cfg kept) :
    w.surroundings.Retains kept w'.surroundings ∧ w'.Fronting cfg kept := by
  induction h with
  | nil => exact ⟨fun _ _ hk => hk, hw⟩
  | step _ hs ih =>
      obtain ⟨hretains, hfronting⟩ := ih
      obtain ⟨hretains', hfronting'⟩ := hfronting.step hs
      exact ⟨fun k hk hfronted => hretains' k hk (hretains k hk hfronted), hfronting'⟩

/-- Where a reconcile goes well, there is a Service of the declared name.  One that has created the
workload has made sure of it, and only others can have removed it since; one that has updated the
workload or found it unchanged has left the Services as they were.  And in any run that starts with
Services for all Deployments that functions control, where others put no function in control and
remove no Service under the key, it is there after each of these outcomes, and stays. -/
theorem service_of_success (cfg : ReconcileConfig) :
    (∀ (seen : Observed) (key : ResourceKey) (f : FunctionObject),
      seen.function? key = some f → f.metadata.key? = some key →
      ∀ (moves : WorkloadStore → WorkloadStore → Prop) (s s' : WorkloadStore) (o : Outcome),
        WorkloadStore.Carries moves (sync cfg seen key) s (.ok o) s' →
        ((∀ s s', moves s s' → s.Fronted ⟨key.ns, f.spec.name⟩ →
            s'.Fronted ⟨key.ns, f.spec.name⟩) →
          o = .created ∨ s.Fronted ⟨key.ns, f.spec.name⟩ → s'.Fronted ⟨key.ns, f.spec.name⟩) ∧
        ((∀ s s', moves s s' →
            s'.services ⟨key.ns, f.spec.name⟩ = s.services ⟨key.ns, f.spec.name⟩) →
          o = .updated ∨ o = .unchanged →
          s'.services ⟨key.ns, f.spec.name⟩ = s.services ⟨key.ns, f.spec.name⟩)) ∧
    ∀ (kept : ResourceKey → Prop) (backoff : Backoff) (t : List Event) (w : Operator WorkloadStore),
      Run (WorkloadStore.surroundings kept cfg backoff) t w →
      ∀ i key seen f o, w.workers i = .busy key seen (.done (.ok o)) →
        seen.function? key = some f → o = .created ∨ o = .updated ∨ o = .unchanged →
        kept ⟨key.ns, f.spec.name⟩ →
        ∀ t' w', Path (WorkloadStore.surroundings kept cfg backoff) w t' w' →
          w'.surroundings.Fronted ⟨key.ns, f.spec.name⟩ := by
  constructor
  · intro seen key f hf hkey moves s s' o h
    constructor
    · rintro hmoves (rfl | hs)
      · exact h.fronted_of_created hf hkey hmoves
      · exact h.fronted hs hmoves
    · intro hmoves ho
      exact h.services_eq_of_kept hf ho hmoves
  · intro kept backoff t w h i key seen f o hi hf ho hk t' w' hpath
    have hfronting := h.fronting
    have hbusy := hfronting.workers i
    rw [hi] at hbusy
    exact (hpath.retains hfronting).1 _ hk (hbusy.fronted ho hf hk)

def bareStore : WorkloadStore := ⟨⟨fun _ => none, []⟩, fun _ => none⟩

def frontedStore : WorkloadStore :=
  { bareStore.putService newKey (newFunction.service newOwner) with
    deployments := bareStore.deployments.put newKey roundDeployment }

theorem backed_bareStore (kept : ResourceKey → Prop) : bareStore.Backed kept where
  current := fun _ _ h => by cases h
  wrote := fun _ _ h => by cases h.1

theorem answers_service : bareStore.Answers (.createService (newFunction.service newOwner))
    (Except.ok () : Except ClusterError Unit)
    (bareStore.putService newKey (newFunction.service newOwner)) :=
  .created rfl rfl rfl fun _ he => by cases he

/-- What happens until the function has its workload, the latest first. -/
def frontedEvents : List Event := [
  .called 0 newKey (.publish (syncedNotice newFunction)) (),
  .called 0 newKey (.createDeployment roundDeployment) (Except.ok roundDeployment),
  .called 0 newKey (.createService (newFunction.service newOwner)) (Except.ok ()),
  .looked 0 newKey,
  .found 0 newKey (some newFunction),
  .took 0 newKey,
  .added newKey,
  .notified (.applyFunction newFunction) [newKey]]

abbrev frontedSurroundings (kept : ResourceKey → Prop) : Surroundings :=
  WorkloadStore.surroundings kept ⟨.always, false⟩ .default

theorem run_fronted (kept : ResourceKey → Prop) :
    ∃ w, Run (frontedSurroundings kept) frontedEvents w ∧
      w.index = (Index.applyFunction newFunction .empty).1 ∧
      w.queue = { WorkQueue.empty with processing := [newKey] } ∧ w.routing = [] ∧
      w.workers 0 = .busy newKey ⟨fun _ => some newFunction, w.index.deployment?⟩
        (.done (.ok .created)) ∧
      w.surroundings = frontedStore := by
  have h₀ : Run (frontedSurroundings kept) [] (start bareStore) := .start (backed_bareStore kept)
  have h₁ := h₀.step (.notify (n := .applyFunction newFunction) fun _ hd => by cases hd)
  have h₂ := h₁.step (.add (k := newKey) List.mem_cons_self)
  have h₃ := h₂.step (.take (i := 0) rfl rfl)
  have h₄ := h₃.step (.find (i := 0) (k := newKey) rfl)
  have h₅ := h₄.step (.look (i := 0) (k := newKey) (f := some newFunction) rfl)
  have h₆ := h₅.step (.call (i := 0) (k := newKey)
    (c := .createService (newFunction.service newOwner)) (a := Except.ok ()) rfl
    answers_service)
  have h₇ := h₆.step (.call (i := 0) (k := newKey) (c := .createDeployment roundDeployment)
    (a := Except.ok roundDeployment) rfl
    (.other (fun _ h => by cases h)
      (.created (k := newKey) rfl rfl ⟨rfl, rfl, rfl, rfl⟩ (.inl rfl))))
  have h := h₇.step (.call (i := 0) (k := newKey) (c := .publish (syncedNotice newFunction))
    (a := ()) rfl (.other (fun _ h => by cases h) .published))
  exact ⟨_, h, rfl, rfl, rfl, rfl, rfl⟩

theorem carries_created :
    WorkloadStore.Carries (fun _ _ => False)
      (sync ⟨.always, false⟩ ⟨fun _ => some newFunction, fun _ => none⟩ newKey) bareStore
      (.ok .created) frontedStore := by
  refine .call (Except.ok () : Except ClusterError Unit) answers_service ?_
  refine .call (Except.ok roundDeployment : Except ClusterError Deployment)
    (.other (fun _ h => by cases h)
      (.created (k := newKey) rfl rfl ⟨rfl, rfl, rfl, rfl⟩ (.inl rfl))) ?_
  exact .call () (.other (fun _ h => by cases h) .published) (.done _ _)

theorem service_of_success_created :
    WorkloadStore.Carries (fun _ _ => False)
        (sync ⟨.always, false⟩ ⟨fun _ => some newFunction, fun _ => none⟩ newKey) bareStore
        (.ok .created) frontedStore ∧
      frontedStore.Fronted newKey ∧
      ∃ w, Run (frontedSurroundings fun _ => True) frontedEvents w ∧
        w.workers 0 = .busy newKey ⟨fun _ => some newFunction, w.index.deployment?⟩
          (.done (.ok .created)) ∧
        w.surroundings.Fronted newKey := by
  obtain ⟨hpass, hrun⟩ := service_of_success ⟨.always, false⟩
  obtain ⟨w, h, -, -, -, hi, -⟩ := run_fronted fun _ => True
  refine ⟨carries_created, ?_, w, h, hi, ?_⟩
  · exact (hpass _ newKey newFunction rfl rfl _ _ _ _ carries_created).1
      (fun _ _ hmove => hmove.elim) (.inl rfl)
  · exact hrun _ _ _ w h 0 newKey _ newFunction .created hi rfl (.inl rfl) trivial [] w .nil

/-- Once somebody has removed the Service, a reconcile goes well without one. -/
theorem service_stays_removed : ∃ t w, Run (frontedSurroundings fun _ => False) t w ∧
    .moved ∈ t ∧
    w.workers 0 = .busy newKey ⟨fun _ => some newFunction, w.index.deployment?⟩
      (.done (.ok .unchanged)) ∧
    .called 0 newKey (.publish (syncedNotice newFunction)) () ∈ t ∧
    ¬w.surroundings.Fronted newKey := by
  obtain ⟨⟨index, queue, routing, delayed, workers, s⟩, h₀, rfl, rfl, rfl, hi, rfl⟩ :=
    run_fronted fun _ => False
  have h₁ := h₀.step (.settle hi)
  have h₂ := h₁.step (.release (i := 0) (k := newKey) (r := .ok .created) rfl)
  have h₃ := h₂.step (.move (.removedService (k := newKey) id))
  -- the Deployment is reported, and the function passes again
  have h₄ := h₃.step (.notify (n := .applyDeployment roundDeployment) fun d hd => hd)
  have h₅ := h₄.step (.add (k := newKey) List.mem_cons_self)
  have h₆ := h₅.step (.take (i := 0) rfl rfl)
  have h₇ := h₆.step (.find (i := 0) (k := newKey) rfl)
  have h₈ := h₇.step (.look (i := 0) (k := newKey) (f := some newFunction) rfl)
  have h := h₈.step (.call (i := 0) (k := newKey) (busy_round rfl)
    (.other (fun _ h => by cases h) .published))
  refine ⟨_, _, h, ?_, rfl, List.mem_cons_self, ?_⟩
  · simp
  · rintro ⟨service, hservice⟩
    cases hservice

end Operator

end FaasOperator
