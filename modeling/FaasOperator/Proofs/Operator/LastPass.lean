/-
# `FaasOperator.Proofs.Operator.LastPass` — no version of a function is left unprocessed

## What is proved

In every run, in any surroundings and before the queue is closed: if a function is cached, its key
is neither dirty nor held, and no add of it is still to come, then some worker took the key after
the last thing that enqueued it, read the function as it is cached now, succeeded and released the
key, and nobody has taken the key since (`processed_of_clean`).

## How

The invariant is `InHand`.  While a key is neither dirty nor about to be added, whoever holds it
took it after the last thing that enqueued it, and so reads the function as it is now cached; when
it is released, its reconcile was the last one and succeeded, for otherwise the key would have been
added again.

## What it is not

It is no liveness: whether a dirty key is ever taken is up to the workers.
-/
import FaasOperator.Proofs.Index.Notify
import FaasOperator.Proofs.Operator.System

open scoped List

namespace FaasOperator

/-! ## A pass under way -/

/-- What the worker has done for the key since it took it: it has found the function that is cached,
if one is, and then succeeded. -/
def Worker.Follows (i : Nat) (key : ResourceKey) (cached : Option FunctionObject)
    (since : List Event) : Worker → Prop
  | .idle | .took _ => True
  | .found _ _ | .busy _ _ _ =>
      ∀ f, cached = some f → [.found i key (some f)] <+ since
  | .settled _ result =>
      ∃ o, result = .ok o ∧
        ∀ f, cached = some f → [.settled i key (.ok o), .found i key (some f)] <+ since

theorem Worker.Follows.cons {i : Nat} {key : ResourceKey} {cached cached' : Option FunctionObject}
    {since : List Event} {s : Worker} (h : s.Follows i key cached since)
    (hc : ∀ f, cached' = some f → cached = some f) (e : Event) :
    s.Follows i key cached' (e :: since) := by
  cases s with
  | idle | took _ => trivial
  | found _ _ | busy _ _ _ => exact fun f hf => (h f (hc f hf)).cons e
  | settled _ result =>
      obtain ⟨o, ho, hall⟩ := h
      exact ⟨o, ho, fun f hf => (hall f (hc f hf)).cons e⟩

namespace Operator

variable {S : Surroundings}

/-- The worker has taken the key, and since then nothing has enqueued it and nobody has taken it. -/
structure LastTake (t : List Event) (i : Nat) (key : ResourceKey) (since : List Event) : Prop where
  split : ∃ before, t = since ++ .took i key :: before
  quiet : ∀ e ∈ since, ¬e.Enqueues key ∧ ¬e.Takes key

theorem LastTake.cons {t since : List Event} {i : Nat} {key : ResourceKey} {e : Event}
    (h : LastTake t i key since) (he : ¬e.Enqueues key ∧ ¬e.Takes key) :
    LastTake (e :: t) i key (e :: since) where
  split := by
    obtain ⟨before, rfl⟩ := h.split
    exact ⟨before, rfl⟩
  quiet := List.forall_mem_cons.mpr ⟨he, h.quiet⟩

/-- The key was last taken for the sake of all that has enqueued it: by the worker that holds it, or
else by one that has succeeded and released it. -/
structure InHand (t : List Event) (w : Operator S.State) (key : ResourceKey) : Prop where
  held : ∀ i, (w.workers i).key? = some key →
    ∃ since, LastTake t i key since ∧ (w.workers i).Follows i key (w.index.function? key) since
  free : key ∉ w.queue.processing → ∀ f, w.index.function? key = some f →
    ∃ i o since, LastTake t i key since ∧
      [.released i key, .settled i key (.ok o), .found i key (some f)] <+ since

variable {t : List Event} {w w' : Operator S.State} {e : Event} {key : ResourceKey}

/-- A step that neither enqueues nor takes the key, nor gives it back. -/
theorem InHand.cons (h : w.InHand t key) (he : ¬e.Enqueues key ∧ ¬e.Takes key)
    (hc : ∀ f, w'.index.function? key = some f → w.index.function? key = some f)
    (hp : key ∈ w.queue.processing → key ∈ w'.queue.processing)
    (hw : ∀ i, (w'.workers i).key? = some key → (w.workers i).key? = some key ∧
      ∀ since, (w.workers i).Follows i key (w.index.function? key) since →
        (w'.workers i).Follows i key (w'.index.function? key) (e :: since)) :
    w'.InHand (e :: t) key where
  held := by
    intro i hi
    obtain ⟨hi, hfollows⟩ := hw i hi
    obtain ⟨since, hlast, hsince⟩ := h.held i hi
    exact ⟨e :: since, hlast.cons he, hfollows since hsince⟩
  free := by
    intro hfree f hf
    obtain ⟨i, o, since, hlast, hsub⟩ := h.free (fun hk => hfree (hp hk)) f (hc f hf)
    exact ⟨i, o, e :: since, hlast.cons he, hsub.cons e⟩

theorem InHand.cons_of_workers_eq (h : w.InHand t key) (he : ¬e.Enqueues key ∧ ¬e.Takes key)
    (hc : ∀ f, w'.index.function? key = some f → w.index.function? key = some f)
    (hp : w'.queue.processing = w.queue.processing) (hw : w'.workers = w.workers) :
    w'.InHand (e :: t) key := by
  refine h.cons he hc (fun hk => hp ▸ hk) fun i hi => ?_
  rw [hw] at hi ⊢
  exact ⟨hi, fun since hsince => hsince.cons hc e⟩

theorem InHand.setWorker (h : w.InHand t key) {i : Nat} {k : ResourceKey} {s : Worker}
    (hi : (w.workers i).key? = some k) (hs : s.key? = some k)
    (he : ¬e.Enqueues key ∧ ¬e.Takes key)
    (hc : w'.index = w.index) (hp : w'.queue.processing = w.queue.processing)
    (hw : w'.workers = (w.setWorker i s).workers)
    (hfollows : k = key → ∀ since, (w.workers i).Follows i key (w.index.function? key) since →
      s.Follows i key (w.index.function? key) (e :: since)) :
    w'.InHand (e :: t) key := by
  refine h.cons he (fun f hf => hc ▸ hf) (fun hk => hp ▸ hk) fun j hj => ?_
  rw [hw] at hj ⊢
  rw [hc]
  by_cases hji : j = i
  · subst hji
    rw [workers_setWorker_self] at hj ⊢
    have hk : k = key := Option.some.inj (hs.symm.trans hj)
    exact ⟨hk ▸ hi, hfollows hk⟩
  · rw [workers_setWorker_of_ne w hji] at hj ⊢
    exact ⟨hj, fun since hsince => hsince.cons (fun f hf => hf) e⟩

theorem InHand.setOther (h : w.InHand t key) {i : Nat} {s : Worker} (hs : s.key? ≠ some key)
    (he : ¬e.Enqueues key ∧ ¬e.Takes key) (hc : w'.index = w.index)
    (hp : key ∈ w.queue.processing → key ∈ w'.queue.processing)
    (hw : w'.workers = (w.setWorker i s).workers) : w'.InHand (e :: t) key := by
  refine h.cons he (fun f hf => hc ▸ hf) hp fun j hj => ?_
  rw [hw] at hj ⊢
  rw [hc]
  have hji : j ≠ i := by
    rintro rfl
    rw [workers_setWorker_self] at hj
    exact hs hj
  rw [workers_setWorker_of_ne w hji] at hj ⊢
  exact ⟨hj, fun since hsince => hsince.cons (fun f hf => hf) e⟩

/-! ## The key changes hands -/

theorem inHand_take (hord : w.Orderly) {i : Nat} {queue : WorkQueue ResourceKey}
    (hget : w.queue.get = (.key key, queue)) :
    InHand (.took i key :: t) { w.setWorker i (.took key) with queue := queue } key where
  held := by
    intro j hj
    have hji : j = i :=
      (hord.take (i := i) hget).alone j i key hj (by rw [workers_setWorker_self]; rfl)
    subst hji
    refine ⟨[], ⟨⟨t, rfl⟩, fun e he => absurd he List.not_mem_nil⟩, ?_⟩
    rw [workers_setWorker_self]
    trivial
  free := fun hfree => absurd ((WorkQueue.mem_processing_get hget).mpr (.inl rfl)) hfree

theorem InHand.release (h : w.InHand t key) (hord : w.Orderly) {i : Nat}
    {result : Except ReconcileError Outcome} (hi : w.workers i = .settled key result) :
    InHand (.released i key :: t) { w.setWorker i .idle with queue := w.queue.done key } key where
  held := by
    intro j hj
    have hfree := (hord.release (i := i) (by rw [hi]; rfl)).held j key hj
    exact absurd rfl (WorkQueue.mem_processing_done.mp hfree).2
  free := by
    intro _ f hf
    obtain ⟨since, hlast, hfollows⟩ := h.held i (by rw [hi]; rfl)
    rw [hi] at hfollows
    obtain ⟨o, -, hall⟩ := hfollows
    exact ⟨i, o, _, hlast.cons ⟨id, id⟩, (hall f hf).cons_cons _⟩

/-- What a worker has settled without the key being added again has succeeded. -/
theorem follows_settled {i : Nat} {seen : Observed} {result : Except ReconcileError Outcome}
    {cached : Option FunctionObject} {since : List Event}
    (hopen : w.queue.closed = false)
    (hdirty : key ∉ (w.queue.settle S.backoff key result).1.dirty)
    (hdelayed : ∀ d, (w.queue.settle S.backoff key result).2 = some d → d.key ≠ key)
    (h : (Worker.busy key seen (.done result)).Follows i key cached since) :
    (Worker.settled key result).Follows i key cached (.settled i key result :: since) := by
  by_cases hok : ∃ o, result = .ok o
  · obtain ⟨o, rfl⟩ := hok
    exact ⟨o, rfl, fun f hf => (h f hf).cons_cons _⟩
  · have hfailed : ∀ o, result ≠ .ok o := fun o ho => hok ⟨o, ho⟩
    rcases WorkQueue.retried_of_settle S.backoff key hopen hfailed with hd | ⟨d, hd, hkey⟩
    · exact absurd hd hdirty
    · exact absurd hkey (hdelayed d hd)

/-! ## Every step -/

/-- Nothing asks for a pass over the key. -/
def Clean (w : Operator S.State) (key : ResourceKey) : Prop :=
  key ∉ w.queue.dirty ∧ ¬w.AwaitsAdd key

/-- Keys are about to be added, and every function that is new in the cache is among them. -/
theorem InHand.route {keys : List ResourceKey} (ih : w.Clean key → w.InHand t key)
    (he : e.Enqueues key → key ∈ keys) (ht : ¬e.Takes key) {index : Index}
    (hindex : w.index.Covers (index, keys))
    (hclean : Clean { w with index := index, routing := w.routing ++ keys } key) :
    InHand (e :: t) { w with index := index, routing := w.routing ++ keys } key := by
  obtain ⟨hdirty, hawaits⟩ := hclean
  have hkeys : key ∉ keys := fun hk => hawaits (.inl (List.mem_append_right _ hk))
  have hbefore : w.Clean key := ⟨hdirty, fun h => hawaits (h.imp (List.mem_append_left _) id)⟩
  exact (ih hbefore).cons_of_workers_eq ⟨fun h => hkeys (he h), ht⟩
    (fun f hf => (hindex key f hf).resolve_left hkeys) rfl rfl

/-- A key is added that was to be added; if it were this one, it would be dirty. -/
theorem InHand.add {k : ResourceKey} (ih : w.Clean key → w.InHand t key)
    (hqueue : w'.queue = w.queue.add k) (hindex : w'.index = w.index)
    (hworkers : w'.workers = w.workers)
    (hawaits : key ≠ k → w.AwaitsAdd key → w'.AwaitsAdd key)
    (hopen : w'.queue.closed = false) (hclean : w'.Clean key) :
    w'.InHand (.added k :: t) key := by
  have hdirty : key ∉ (w.queue.add k).dirty := hqueue ▸ hclean.1
  have hne : key ≠ k := fun h => hdirty (WorkQueue.mem_dirty_add.mpr
    (.inr ⟨h, (WorkQueue.closed_add k w.queue).symm.trans (hqueue ▸ hopen)⟩))
  have hbefore : w.Clean key :=
    ⟨fun hd => hdirty (WorkQueue.mem_dirty_add.mpr (.inl hd)),
      fun h => hclean.2 (hawaits hne h)⟩
  exact (ih hbefore).cons_of_workers_eq ⟨hne.symm, id⟩ (fun f hf => hindex ▸ hf)
    (hqueue ▸ WorkQueue.processing_add k w.queue) hworkers

theorem InHand.step (hord : w.Orderly) (ih : w.Clean key → w.InHand t key) (hs : Step S w e w')
    (hopen : w'.queue.closed = false) (hclean : w'.Clean key) : w'.InHand (e :: t) key := by
  obtain ⟨hdirty, hawaits⟩ := hclean
  cases hs with
  | @notify n _ =>
      exact InHand.route ih id id (Index.covers_notify n w.index) ⟨hdirty, hawaits⟩
  | resync => exact InHand.route ih id id (Index.covers_resync w.index) ⟨hdirty, hawaits⟩
  | @add k _ =>
      refine InHand.add ih rfl rfl rfl (fun hne h => h.imp (fun hk => ?_) id) hopen
        ⟨hdirty, hawaits⟩
      exact (List.mem_erase_of_ne hne).mpr hk
  | @fire d _ =>
      refine InHand.add ih rfl rfl rfl (fun hne h => h.imp id ?_) hopen ⟨hdirty, hawaits⟩
      rintro ⟨d', hd', rfl⟩
      have hd : d' ≠ d := fun h => hne (congrArg Delayed.key h)
      exact ⟨d', (List.mem_erase_of_ne hd).mpr hd', rfl⟩
  | @take i k queue hi hget =>
      by_cases hk : k = key
      · subst hk
        exact inHand_take hord hget
      · have hclean : w.Clean key :=
          ⟨fun hd => hdirty ((WorkQueue.mem_dirty_get hget).mpr ⟨hd, Ne.symm hk⟩), hawaits⟩
        have htook : (Worker.took k).key? ≠ some key := fun h => hk (Option.some.inj h)
        exact (ih hclean).setOther htook ⟨id, hk⟩ rfl
          (fun hp => (WorkQueue.mem_processing_get hget).mpr (.inr hp)) rfl
  | @find i k hi =>
      refine (ih ⟨hdirty, hawaits⟩).setWorker (i := i) (k := k) (by rw [hi]; rfl) rfl ⟨id, id⟩ rfl
        rfl rfl ?_
      -- here the function is read as it is cached
      rintro rfl since - f hf
      rw [hf]
      exact (List.nil_sublist since).cons_cons _
  | @look i k f hi =>
      refine (ih ⟨hdirty, hawaits⟩).setWorker (i := i) (k := k) (by rw [hi]; rfl) rfl ⟨id, id⟩ rfl
        rfl rfl ?_
      rintro rfl since hsince
      rw [hi] at hsince
      exact hsince.cons (fun f hf => hf) _
  | @call i k seen c next answer s hi _ =>
      refine (ih ⟨hdirty, hawaits⟩).setWorker (i := i) (k := k) (by rw [hi]; rfl) rfl ⟨id, id⟩ rfl
        rfl rfl ?_
      rintro rfl since hsince
      rw [hi] at hsince
      exact hsince.cons (fun f hf => hf) _
  | @settle i k seen result hi =>
      obtain ⟨hp, hclosed, hmono⟩ := WorkQueue.settle_spec S.backoff k result w.queue
      have hclean : w.Clean key := by
        refine ⟨fun hd => hdirty (hmono key hd), fun h => hawaits (h.imp id ?_)⟩
        rintro ⟨d, hd, hkey⟩
        exact ⟨d, List.mem_append_left _ hd, hkey⟩
      refine (ih hclean).setWorker (i := i) (k := k) (by rw [hi]; rfl) rfl ⟨id, id⟩ rfl
        hp rfl ?_
      rintro rfl since hsince
      rw [hi] at hsince
      refine follows_settled (hclosed.symm.trans hopen) hdirty (fun d hd hkey => ?_) hsince
      refine hawaits (.inr ⟨d, List.mem_append_right _ ?_, hkey⟩)
      exact Option.mem_toList.mpr hd
  | @release i k result hi =>
      by_cases hk : k = key
      · subst hk
        exact (ih ⟨hdirty, hawaits⟩).release hord hi
      · have hidle : Worker.key? .idle ≠ some key := fun h => by cases h
        exact (ih ⟨hdirty, hawaits⟩).setOther hidle ⟨id, id⟩ rfl
          (fun hp => WorkQueue.mem_processing_done.mpr ⟨hp, Ne.symm hk⟩) rfl
  | move _ =>
      exact (ih ⟨hdirty, hawaits⟩).cons_of_workers_eq ⟨id, id⟩ (fun f hf => hf) rfl rfl
  | close => cases hopen

theorem Run.inHand (h : Run S t w) (hopen : w.queue.closed = false) (hclean : w.Clean key) :
    w.InHand t key := by
  induction h with
  | start _ =>
      constructor
      · intro i hi
        cases hi
      · intro _ f hf
        cases hf
  | step h hs ih =>
      exact InHand.step h.orderly (ih (hs.closed_eq_false hopen)) hs hopen hclean

/-- No version of a function is left unprocessed.  Before the queue is closed, where a cached
function's key is neither dirty nor held, and no add of it is still to come, some worker took the
key after the last thing that enqueued it, read the function as it is cached now, succeeded and
released the key; and nobody has taken the key since. -/
theorem processed_of_clean (h : Run S t w) (hopen : w.queue.closed = false) {f : FunctionObject}
    (hf : w.index.function? key = some f) (hdirty : key ∉ w.queue.dirty)
    (hfree : key ∉ w.queue.processing) (hawaits : ¬w.AwaitsAdd key) :
    ∃ i o since before, t = since ++ .took i key :: before ∧
      (∀ e ∈ since, ¬e.Enqueues key ∧ ¬e.Takes key) ∧
      [.released i key, .settled i key (.ok o), .found i key (some f)] <+ since := by
  obtain ⟨i, o, since, ⟨⟨before, hsplit⟩, hquiet⟩, hsub⟩ :=
    (h.inHand hopen ⟨hdirty, hawaits⟩).free hfree f hf
  exact ⟨i, o, since, before, hsplit, hquiet, hsub⟩

def anySurroundings : Surroundings where
  State := Unit
  Starts := fun _ => True
  Answers := fun _ _ _ _ => True
  Moves := fun _ _ => True
  Reports := fun _ _ => True
  config := ⟨.always, false⟩
  backoff := .default

def newFunction : FunctionObject :=
  ⟨{ ObjectMeta.empty with name := some "echo", ns := some "openfaas-fn", uid := some "8f3c5e1a" },
    { FunctionSpec.empty with name := "echo" }, none⟩

def newKey : ResourceKey := ⟨"openfaas-fn", "echo"⟩

def newOwner : OwnerReference :=
  ⟨FunctionObject.apiVersion, FunctionObject.kind, "echo", "8f3c5e1a", some true, some true⟩

theorem processed_of_clean_new :
    ∃ t, ∃ w : Operator Unit, Run anySurroundings t w ∧ w.queue.closed = false ∧
      w.index.function? newKey = some newFunction ∧ newKey ∉ w.queue.dirty ∧
      newKey ∉ w.queue.processing ∧ ¬w.AwaitsAdd newKey ∧
      ∃ i o since before, t = since ++ .took i newKey :: before ∧
        (∀ e ∈ since, ¬e.Enqueues newKey ∧ ¬e.Takes newKey) ∧
        [.released i newKey, .settled i newKey (.ok o), .found i newKey (some newFunction)] <+
          since := by
  have h₀ : Run anySurroundings [] (start ()) := .start trivial
  have h₁ := h₀.step (.notify (n := .applyFunction newFunction) trivial)
  have h₂ := h₁.step (.add (k := newKey) List.mem_cons_self)
  have h₃ := h₂.step (.take (i := 0) rfl rfl)
  have h₄ := h₃.step (.find (i := 0) (k := newKey) rfl)
  have h₅ := h₄.step (.look (i := 0) (k := newKey) (f := some newFunction) rfl)
  have h₆ := h₅.step (.call (i := 0) (k := newKey)
    (c := .createService (newFunction.service newOwner)) (a := Except.ok ()) (s := ()) rfl trivial)
  have h₇ := h₆.step (.call (i := 0) (k := newKey)
    (c := .createDeployment (newFunction.deployment newOwner ∅ .always))
    (a := Except.ok Deployment.empty) (s := ()) rfl trivial)
  have h₈ := h₇.step (.call (i := 0) (k := newKey) (c := .publish (syncedNotice newFunction))
    (a := ()) (s := ()) rfl trivial)
  have h₉ := h₈.step (.settle (i := 0) (k := newKey) (r := .ok .created) rfl)
  have h := h₉.step (.release (i := 0) (k := newKey) (r := .ok .created) rfl)
  exact ⟨_, _, h, rfl, rfl, List.not_mem_nil, List.not_mem_nil, not_awaitsAdd rfl rfl newKey,
    processed_of_clean h rfl rfl List.not_mem_nil List.not_mem_nil (not_awaitsAdd rfl rfl newKey)⟩

end Operator

end FaasOperator
