/-
# `FaasOperator.Proofs.Reconcile.Protocol` — the calls of a reconcile, in order

## What is proved

What a reconcile finds in the cache (`Situation`) decides which calls it is going to make
(`Situation.calls`), up to the Secrets that it reads and the Deployment that it gets back.  However
the calls are answered (`sync_calls`):

* the calls that are made are a beginning of these, followed by the event that the situation calls
  for;
* none is made after the first that fails, and that something is there already is no failure of the
  call that was to create it;
* the result is an error exactly if a call failed, and then it is that failure, and nothing is
  published;
* otherwise all calls were made, the event was published, and the result is the situation's outcome.

## How

Each part of a reconcile makes the calls of its own script one after the other until one fails
(`Follows`), and one part after the other follows one script after the other (`follows_andThen`).
-/
import FaasOperator.Proofs.Reconcile.Sends

namespace FaasOperator

open Plan

/-! ## Failures -/

/-- What a reconcile reports when a create fails with this error. -/
def createReport? (e : ClusterError) : Option ReconcileError :=
  if e.isAlreadyExists then none else some (.cluster e)

theorem createReport?_of_exists {e : ClusterError} (h : e.isAlreadyExists = true) :
    createReport? e = none :=
  if_pos h

theorem createReport?_of_not_exists {e : ClusterError} (h : e.isAlreadyExists = false) :
    createReport? e = some (.cluster e) :=
  if_neg (Bool.eq_false_iff.mp h)

/-- What a reconcile reports when the call fails with this error. -/
def Call.report? : Call → ClusterError → Option ReconcileError
  | .createService _, e | .createDeployment _, e => createReport? e
  | .getSecret _ name, e => some (.secret name e)
  | .updateDeployment _, e | .patchStatus _ _ _, e | .publish _, e => some (.cluster e)

/-- The failure that ends a reconcile, if the call was answered with one. -/
def Exchange.failure? (e : Exchange) : Option ReconcileError :=
  (e.call.error? e.answer).bind e.call.report?

/-- The exchanges make the calls of the script, one after the other, until one fails; the result is
that failure, or a success if there was none. -/
inductive Follows {α : Type} : List Call → List Exchange → Except ReconcileError α → Prop
  | done (a : α) : Follows [] [] (.ok a)
  | next {c : Call} {script : List Call} {t : List Exchange} {r : Except ReconcileError α}
      (answer : c.Answer) : Exchange.failure? ⟨c, answer⟩ = none → Follows script t r →
      Follows (c :: script) (⟨c, answer⟩ :: t) r
  | stop {c : Call} {script : List Call} {err : ReconcileError} (answer : c.Answer) :
      Exchange.failure? ⟨c, answer⟩ = some err →
      Follows (c :: script) [⟨c, answer⟩] (.error err)

namespace Follows

variable {α β : Type} {s s₁ s₂ : List Call} {t t₁ t₂ : List Exchange}
  {r : Except ReconcileError α} {err : ReconcileError}

theorem append {a : β} (h₁ : Follows s₁ t₁ (.ok a)) (h₂ : Follows s₂ t₂ r) :
    Follows (s₁ ++ s₂) (t₁ ++ t₂) r := by
  generalize hok : Except.ok a = r₁ at h₁
  induction h₁ with
  | done _ => exact h₂
  | next answer hnone _ ih => exact .next answer hnone (ih hok)
  | stop _ _ => cases hok

theorem stopped (h : Follows s₁ t (.error err : Except ReconcileError β)) (s₂ : List Call) :
    Follows (s₁ ++ s₂) t (.error err : Except ReconcileError α) := by
  generalize herr : (Except.error err : Except ReconcileError β) = r₁ at h
  induction h with
  | done _ => cases herr
  | next answer hnone _ ih => exact .next answer hnone (ih herr)
  | stop answer hsome =>
      cases herr
      exact .stop answer hsome

theorem calls_prefix (h : Follows s t r) : t.map (·.call) <+: s := by
  induction h with
  | done _ => exact List.prefix_rfl
  | next answer _ _ ih => exact List.cons_prefix_cons.mpr ⟨rfl, ih⟩
  | stop answer _ => exact List.cons_prefix_cons.mpr ⟨rfl, List.nil_prefix⟩

theorem calls_eq {a : α} (h : Follows s t (.ok a)) : t.map (·.call) = s := by
  generalize hok : Except.ok a = r at h
  induction h with
  | done _ => rfl
  | next answer _ _ ih => exact congrArg _ (ih hok)
  | stop _ _ => cases hok

theorem failure?_dropLast (h : Follows s t r) : ∀ e ∈ t.dropLast, e.failure? = none := by
  induction h with
  | done _ => exact fun e he => absurd he List.not_mem_nil
  | @next c _ t _ answer hnone _ ih =>
      intro e he
      cases t with
      | nil => cases he
      | cons e' t =>
          rw [List.dropLast_cons_cons] at he
          rcases List.mem_cons.mp he with rfl | he
          · exact hnone
          · exact ih e he
  | stop _ _ => exact fun e he => absurd he List.not_mem_nil

theorem eq_error_iff (h : Follows s t r) : r = .error err ↔ ∃ e ∈ t, e.failure? = some err := by
  induction h with
  | done _ => simp
  | next answer hnone _ ih => simp [ih, hnone]
  | stop answer hsome => simp [hsome, eq_comm]

theorem not_error_of_publish (notices : List Notice) (t : List Exchange) :
    ¬Follows (notices.map .publish) t (.error err : Except ReconcileError α) := by
  intro h
  induction notices generalizing t with
  | nil => cases h
  | cons n ns ih =>
      cases h with
      | next answer _ hrest => exact ih _ hrest
      | stop answer hsome => cases hsome

theorem calls_prefix_of_error {notices : List Notice}
    (h : Follows (s ++ notices.map .publish) t (.error err : Except ReconcileError α)) :
    t.map (·.call) <+: s := by
  -- when the script is used up, only events are left
  induction s generalizing t with
  | nil => exact absurd h (not_error_of_publish notices t)
  | cons c s ih =>
      cases h with
      | next answer _ hrest => exact List.cons_prefix_cons.mpr ⟨rfl, ih hrest⟩
      | stop answer _ => exact List.cons_prefix_cons.mpr ⟨rfl, List.nil_prefix⟩

end Follows

/-! ## What the answers bring -/

/-- The Secret that was read, under its name. -/
def Exchange.secret? : Exchange → Option (String × Secret)
  | ⟨.getSecret _ name, answer⟩ =>
      match (answer : Except ClusterError Secret) with
      | .ok s => some (name, s)
      | .error _ => none
  | _ => none

def secretsRead (t : List Exchange) : Secrets := .ofList (t.filterMap (·.secret?))

/-- The Deployment as it was returned when it was created or updated. -/
def Exchange.written? : Exchange → Option Deployment
  | ⟨.createDeployment _, answer⟩ | ⟨.updateDeployment _, answer⟩ =>
      (answer : Except ClusterError Deployment).toOption
  | _ => none

/-- The Deployment that came back from the cluster. -/
def writtenDeployment? (t : List Exchange) : Option Deployment := t.findSome? (·.written?)

/-! ## The parts of a reconcile -/

section Parts

variable {α β : Type} {t : List Exchange} {cfg : ReconcileConfig} {f : FunctionObject}
  {owner : OwnerReference}

theorem follows_andThen {p : Attempt α} {g : α → Attempt β} {r : Except ReconcileError β}
    {s₁ s₂ : List Call} (h : (Attempt.andThen p g).Yields t r)
    (h₁ : ∀ t₁ r₁, p.Yields t₁ r₁ → Follows s₁ t₁ r₁)
    (h₂ : ∀ t₁ a t₂, t = t₁ ++ t₂ → p.Yields t₁ (.ok a) → (g a).Yields t₂ r → Follows s₂ t₂ r) :
    Follows (s₁ ++ s₂) t r := by
  obtain ⟨t₁, r₁, t₂, rfl, hp, hg⟩ := yields_andThen_iff.mp h
  cases r₁ with
  | error err =>
      obtain ⟨rfl, rfl⟩ := yields_done_iff.mp hg
      rw [List.append_nil]
      exact (h₁ t₁ _ hp).stopped s₂
  | ok a => exact (h₁ t₁ _ hp).append (h₂ t₁ a t₂ rfl hp hg)

theorem filter_contains_insert (secrets : Secrets) (name : String) (s : Secret)
    (names : List String) :
    (names.filter fun n => !(secrets.insert name s).contains n) =
      (names.filter fun n => !secrets.contains n).filter fun n => !n == name := by
  rw [List.filter_filter]
  congr 1
  funext n
  simp only [StringMap.contains, StringMap.get?_insert]
  by_cases hn : n = name <;> simp [hn]

/-- Each declared Secret that is not there yet is read, once. -/
theorem follows_resolveSecrets {ns : String} {names : List String} {secrets : Secrets}
    {r : Except ReconcileError Secrets} (h : (resolveSecrets ns names secrets).Yields t r) :
    Follows ((names.filter fun n => !secrets.contains n).eraseDups.map (.getSecret ns)) t r ∧
      ∀ s, r = .ok s → s = secrets.insertAll (t.filterMap (·.secret?)) := by
  induction names generalizing secrets t with
  | nil =>
      obtain ⟨rfl, rfl⟩ := yields_done_iff.mp h
      exact ⟨.done _, fun s hs => (Except.ok.inj hs).symm⟩
  | cons name names ih =>
      rw [resolveSecrets] at h
      by_cases hread : secrets.contains name = true
      · rw [if_pos hread] at h
        rw [List.filter_cons_of_neg (by simp [hread])]
        exact ih h
      · rw [if_neg hread] at h
        rw [List.filter_cons_of_pos (by simp [hread]), List.eraseDups_cons]
        obtain ⟨answer, t', rfl, hnext⟩ := yields_call_iff.mp h
        cases (answer : Except ClusterError Secret) with
        | error e =>
            obtain ⟨rfl, rfl⟩ := yields_done_iff.mp hnext
            exact ⟨.stop _ rfl, fun s hs => by cases hs⟩
        | ok secret =>
            obtain ⟨hfollows, hsecrets⟩ := ih hnext
            rw [filter_contains_insert] at hfollows
            exact ⟨.next _ rfl hfollows, hsecrets⟩

def FunctionObject.secretCalls (f : FunctionObject) : List Call :=
  f.spec.secretNames.map (.getSecret f.metadata.anyNamespace)

theorem FunctionObject.follows_resolveSecrets {r : Except ReconcileError Secrets}
    (h : f.resolveSecrets.Yields t r) :
    Follows f.secretCalls t r ∧ ∀ s, r = .ok s → s = secretsRead t := by
  have hall : (f.spec.secrets.getD []).filter (fun n => !(∅ : Secrets).contains n) =
      f.spec.secrets.getD [] := List.filter_eq_self.mpr fun _ _ => rfl
  obtain ⟨hfollows, hsecrets⟩ := FaasOperator.follows_resolveSecrets h
  rw [hall] at hfollows
  exact ⟨hfollows, hsecrets⟩

theorem secretsRead_append {t₁ t₂ : List Exchange} (h : ∀ e ∈ t₂, e.secret? = none) :
    secretsRead (t₁ ++ t₂) = secretsRead t₁ := by
  rw [secretsRead, List.filterMap_append, List.filterMap_eq_nil_iff.mpr h, List.append_nil]
  rfl

theorem writtenDeployment?_append {t₁ t₂ : List Exchange} (h : ∀ e ∈ t₁, e.written? = none) :
    writtenDeployment? (t₁ ++ t₂) = writtenDeployment? t₂ := by
  rw [writtenDeployment?, List.findSome?_append, List.findSome?_eq_none_iff.mpr h, Option.none_or]
  rfl

theorem written?_of_readsSecret {e : Exchange} (h : e.call.ReadsSecret) : e.written? = none := by
  obtain ⟨c, answer⟩ := e
  cases c with
  | getSecret ns name => rfl
  | createService _ | createDeployment _ | updateDeployment _ | patchStatus _ _ _ | publish _ =>
      exact absurd h id

theorem secret?_of_reports {e : Exchange} (h : e.call.Reports) : e.secret? = none := by
  obtain ⟨c, answer⟩ := e
  cases c with
  | patchStatus _ _ _ | publish _ => rfl
  | createService _ | createDeployment _ | updateDeployment _ | getSecret _ _ => exact absurd h id

theorem written?_of_reports {e : Exchange} (h : e.call.Reports) : e.written? = none := by
  obtain ⟨c, answer⟩ := e
  cases c with
  | patchStatus _ _ _ | publish _ => rfl
  | createService _ | createDeployment _ | updateDeployment _ | getSecret _ _ => exact absurd h id

/-- After the reads one Deployment is written, made with the Secrets that were read. -/
theorem follows_write {c : Secrets → Call} {next : (s : Secrets) → (c s).Answer → Attempt α}
    (known : α → Option Deployment) {r : Except ReconcileError α}
    (hnext : ∀ s answer, ∃ r', next s answer = .done r' ∧ Follows [c s] [⟨c s, answer⟩] r' ∧
      Exchange.secret? ⟨c s, answer⟩ = none ∧
      ∀ a, r' = .ok a → Exchange.written? ⟨c s, answer⟩ = known a)
    (h : (Attempt.andThen f.resolveSecrets fun s => .call (c s) (next s)).Yields t r) :
    Follows (f.secretCalls ++ [c (secretsRead t)]) t r ∧
      ∀ a, r = .ok a → writtenDeployment? t = known a := by
  obtain ⟨t₁, r₁, t₂, rfl, hreads, hwrite⟩ := yields_andThen_iff.mp h
  obtain ⟨hfollows, hsecrets⟩ := f.follows_resolveSecrets hreads
  cases r₁ with
  | error err =>
      obtain ⟨rfl, rfl⟩ := yields_done_iff.mp hwrite
      rw [List.append_nil]
      exact ⟨hfollows.stopped _, fun a ha => by cases ha⟩
  | ok secrets =>
      obtain ⟨answer, t₃, rfl, hdone⟩ := yields_call_iff.mp hwrite
      -- the write is the last exchange, and brings no Secret; the reads bring no Deployment
      obtain ⟨r', hr', hlast, hsecret, hwritten⟩ := hnext secrets answer
      rw [hr'] at hdone
      obtain ⟨rfl, rfl⟩ := yields_done_iff.mp hdone
      have hread : secretsRead (t₁ ++ [⟨c secrets, answer⟩]) = secrets := by
        rw [secretsRead_append (List.forall_mem_singleton.mpr hsecret), hsecrets secrets rfl]
      have hnone : ∀ e ∈ t₁, e.written? = none := fun e he =>
        written?_of_readsSecret (hreads.only f.resolveSecrets_only e he)
      constructor
      · rw [hread]
        exact hfollows.append hlast
      · intro a ha
        rw [writtenDeployment?_append hnone, writtenDeployment?, List.findSome?_singleton]
        exact hwritten a ha

theorem follows_createDeployment {r : Except ReconcileError (Option Deployment)}
    (h : (createDeployment cfg f owner).Yields t r) :
    Follows (f.secretCalls ++
        [.createDeployment (f.deployment owner (secretsRead t) cfg.imagePullPolicy)]) t r ∧
      ∀ d, r = .ok d → writtenDeployment? t = d := by
  refine follows_write id (fun secrets answer => ?_) h
  cases (answer : Except ClusterError Deployment) with
  | ok d => exact ⟨_, rfl, .next _ rfl (.done _), rfl, fun _ hd => Except.ok.inj hd⟩
  | error e =>
      cases hexists : e.isAlreadyExists with
      | true =>
          exact ⟨_, congrArg Plan.done (if_pos hexists),
            .next _ (createReport?_of_exists hexists) (.done _), rfl, fun _ hd => Except.ok.inj hd⟩
      | false =>
          exact ⟨_, congrArg Plan.done (if_neg (Bool.eq_false_iff.mp hexists)),
            .stop _ (createReport?_of_not_exists hexists), rfl, fun _ hd => by cases hd⟩

theorem follows_createWorkload {r : Except ReconcileError (Option Deployment)}
    (h : (createWorkload cfg f owner).Yields t r) :
    Follows (.createService (f.service owner) :: (f.secretCalls ++
        [.createDeployment (f.deployment owner (secretsRead t) cfg.imagePullPolicy)])) t r ∧
      ∀ d, r = .ok d → writtenDeployment? t = d := by
  obtain ⟨answer, t', rfl, hnext⟩ := yields_call_iff.mp h
  -- the Service brings nothing back
  have hread : secretsRead (⟨.createService (f.service owner), answer⟩ :: t') = secretsRead t' :=
    rfl
  have hwritten : writtenDeployment? (⟨.createService (f.service owner), answer⟩ :: t') =
      writtenDeployment? t' := rfl
  rw [hread, hwritten]
  cases (answer : Except ClusterError Unit) with
  | ok u =>
      obtain ⟨hfollows, hknown⟩ := follows_createDeployment hnext
      exact ⟨.next _ rfl hfollows, hknown⟩
  | error e =>
      cases hexists : e.isAlreadyExists with
      | true =>
          simp only [hexists, if_true] at hnext
          obtain ⟨hfollows, hknown⟩ := follows_createDeployment hnext
          exact ⟨.next _ (createReport?_of_exists hexists) hfollows, hknown⟩
      | false =>
          simp only [hexists] at hnext
          obtain ⟨rfl, rfl⟩ := yields_done_iff.mp hnext
          exact ⟨.stop _ (createReport?_of_not_exists hexists), fun _ hd => by cases hd⟩

theorem follows_updateWorkload {current : Deployment} {r : Except ReconcileError Deployment}
    (h : (updateWorkload cfg f owner current).Yields t r) :
    Follows (f.secretCalls ++ [.updateDeployment (replacement cfg f owner (secretsRead t) current)])
        t r ∧
      ∀ d, r = .ok d → writtenDeployment? t = some d := by
  refine follows_write some (fun secrets answer => ?_) h
  cases (answer : Except ClusterError Deployment) with
  | ok d =>
      exact ⟨_, rfl, .next _ rfl (.done _), rfl, fun _ hd => congrArg some (Except.ok.inj hd)⟩
  | error e => exact ⟨_, rfl, .stop _ rfl, rfl, fun _ hd => by cases hd⟩

/-- The report of the status: if it is wanted, the Deployment known, and the status not as it is to
be. -/
def FunctionObject.statusCalls (cfg : ReconcileConfig) (f : FunctionObject) :
    Option Deployment → List Call
  | none => []
  | some d =>
      if cfg.updateStatus = true ∧ f.status ≠ some ⟨d.availableReplicas⟩ then
        [.patchStatus f.metadata.anyNamespace f.metadata.anyName ⟨d.availableReplicas⟩]
      else []

theorem follows_reportIfWanted {d : Option Deployment} {r : Except ReconcileError Unit}
    (h : (reportIfWanted cfg f d).Yields t r) : Follows (f.statusCalls cfg d) t r := by
  cases d with
  | none =>
      obtain ⟨rfl, rfl⟩ := yields_done_iff.mp h
      exact .done ()
  | some d =>
      simp only [reportIfWanted, reportStatus] at h
      rw [FunctionObject.statusCalls]
      by_cases hcfg : cfg.updateStatus = true
      · by_cases hsame : f.status = some ⟨d.availableReplicas⟩
        · rw [if_pos hcfg, if_pos hsame] at h
          obtain ⟨rfl, rfl⟩ := yields_done_iff.mp h
          rw [if_neg fun hc => hc.2 hsame]
          exact .done ()
        · rw [if_pos hcfg, if_neg hsame] at h
          rw [if_pos ⟨hcfg, hsame⟩]
          obtain ⟨answer, t', rfl, hdone⟩ := yields_call_iff.mp h
          cases (answer : Except ClusterError Unit) with
          | ok u =>
              obtain ⟨rfl, rfl⟩ := yields_done_iff.mp hdone
              exact .next _ rfl (.done ())
          | error e =>
              obtain ⟨rfl, rfl⟩ := yields_done_iff.mp hdone
              exact .stop _ rfl
      · rw [if_neg hcfg] at h
        obtain ⟨rfl, rfl⟩ := yields_done_iff.mp h
        rw [if_neg fun hc => hcfg hc.1]
        exact .done ()

theorem follows_concludeSync {outcome : Outcome} {d : Option Deployment}
    {r : Except ReconcileError Outcome} (h : (concludeSync cfg f outcome d).Yields t r) :
    Follows (f.statusCalls cfg d ++ [.publish (syncedNotice f)]) t r := by
  refine follows_andThen h (fun t₁ r₁ h₁ => follows_reportIfWanted h₁) ?_
  rintro t₁ u t₂ rfl - h₂
  obtain ⟨answer, t₃, rfl, hdone⟩ := yields_call_iff.mp h₂
  obtain ⟨rfl, rfl⟩ := yields_done_iff.mp hdone
  exact .next _ rfl (.done outcome)

end Parts

/-! ## A whole reconcile -/

/-- What a reconcile finds. -/
inductive Situation where
  /-- There is no function that names a Deployment and can own it. -/
  | skipped
  /-- Somebody else controls the Deployment. -/
  | conflict (f : FunctionObject)
  | create (f : FunctionObject) (owner : OwnerReference)
  | update (f : FunctionObject) (owner : OwnerReference) (current : Deployment)
  | unchanged (f : FunctionObject) (current : Deployment)

/-- What there is to do about a function with this owner reference, given the Deployment of the
declared name. -/
def FunctionObject.situation (f : FunctionObject) (owner : OwnerReference) :
    Option Deployment → Situation
  | none => .create f owner
  | some current =>
      if !f.controls current then .conflict f
      else if needsUpdate f.spec current then .update f owner current
      else .unchanged f current

/-- What a reconcile of the key finds in the cache. -/
def Observed.situation (seen : Observed) (key : ResourceKey) : Situation :=
  match seen.function? key with
  | none => .skipped
  | some f =>
      match f.ownerReference? with
      | none => .skipped
      | some owner =>
          if f.spec.name.isEmpty then .skipped
          else f.situation owner (seen.deployment? ⟨key.ns, f.spec.name⟩)

namespace Situation

/-- The result if no call fails. -/
def outcome : Situation → Outcome
  | .skipped => .skipped
  | .conflict _ => .conflict
  | .create _ _ => .created
  | .update _ _ _ => .updated
  | .unchanged _ _ => .unchanged

/-- The calls to the cluster, in order, given the Secrets that are read on the way and the
Deployment that comes back. -/
def calls (cfg : ReconcileConfig) (secrets : Secrets) (written : Option Deployment) :
    Situation → List Call
  | .skipped | .conflict _ => []
  | .create f owner =>
      .createService (f.service owner) :: (f.secretCalls ++
        .createDeployment (f.deployment owner secrets cfg.imagePullPolicy) ::
          f.statusCalls cfg written)
  | .update f owner current =>
      f.secretCalls ++
        .updateDeployment (replacement cfg f owner secrets current) :: f.statusCalls cfg written
  | .unchanged f current => f.statusCalls cfg (some current)

/-- The event that is published in the end. -/
def notices : Situation → List Notice
  | .skipped => []
  | .conflict f => [conflictNotice f]
  | .create f _ | .update f _ _ | .unchanged f _ => [syncedNotice f]

end Situation

section Sync

variable {cfg : ReconcileConfig} {seen : Observed} {key : ResourceKey} {f : FunctionObject}
  {owner : OwnerReference} {t : List Exchange} {r : Except ReconcileError Outcome}

theorem secretsRead_concludeSync {t₁ t₂ : List Exchange} {outcome : Outcome}
    {d : Option Deployment} (h : (concludeSync cfg f outcome d).Yields t₂ r) :
    secretsRead (t₁ ++ t₂) = secretsRead t₁ :=
  secretsRead_append fun e he => secret?_of_reports (h.only (concludeSync_only cfg f outcome d) e he)

theorem writtenDeployment?_concludeSync {t₁ t₂ : List Exchange} {outcome : Outcome}
    {d : Option Deployment} (h : (concludeSync cfg f outcome d).Yields t₂ r) :
    writtenDeployment? (t₁ ++ t₂) = writtenDeployment? t₁ := by
  have hnone : writtenDeployment? t₂ = none := List.findSome?_eq_none_iff.mpr fun e he =>
    written?_of_reports (h.only (concludeSync_only cfg f outcome d) e he)
  rw [writtenDeployment?, List.findSome?_append]
  rw [writtenDeployment?] at hnone
  rw [hnone, Option.or_none]
  rfl

/-- A workload is written, and then the status is reported and the success published. -/
theorem follows_write_concludeSync {α : Type} {p : Attempt α} (known : α → Option Deployment)
    (script : Secrets → List Call) {outcome : Outcome}
    (hp : ∀ {t r}, p.Yields t r → Follows (script (secretsRead t)) t r ∧
      ∀ a, r = .ok a → writtenDeployment? t = known a)
    (h : (Attempt.andThen p fun a => concludeSync cfg f outcome (known a)).Yields t r) :
    Follows (script (secretsRead t) ++ f.statusCalls cfg (writtenDeployment? t) ++
      [syncedNotice f].map .publish) t r ∧ ∀ o, r = .ok o → o = outcome := by
  obtain ⟨t₁, r₁, t₂, rfl, hwrite, hconclude⟩ := yields_andThen_iff.mp h
  obtain ⟨hfollows, hknown⟩ := hp hwrite
  cases r₁ with
  | error err =>
      obtain ⟨rfl, rfl⟩ := yields_done_iff.mp hconclude
      rw [List.append_nil, List.append_assoc]
      exact ⟨hfollows.stopped _, fun o ho => by cases ho⟩
  | ok a =>
      rw [secretsRead_concludeSync hconclude, writtenDeployment?_concludeSync hconclude,
        hknown a rfl, List.append_assoc]
      refine ⟨hfollows.append (follows_concludeSync hconclude), ?_⟩
      rintro o rfl
      exact eq_of_yields_concludeSync hconclude

theorem follows_syncOwned {current : Option Deployment} (howner : f.ownerReference? = some owner)
    (h : (syncOwned cfg f owner current).Yields t r) :
    Follows ((f.situation owner current).calls cfg (secretsRead t) (writtenDeployment? t) ++
      (f.situation owner current).notices.map .publish) t r ∧
      ∀ o, r = .ok o → o = (f.situation owner current).outcome := by
  cases current with
  | none =>
      have hcreate := follows_write_concludeSync id
        (fun secrets => .createService (f.service owner) :: (f.secretCalls ++
          [.createDeployment (f.deployment owner secrets cfg.imagePullPolicy)]))
        follows_createWorkload h
      simpa [FunctionObject.situation, Situation.calls, Situation.notices, Situation.outcome]
        using hcreate
  | some current =>
      unfold syncOwned at h
      dsimp only at h
      rw [FunctionObject.situation, FunctionObject.controls_eq_isControlledBy howner]
      split at h
      · rename_i hforeign
        rw [if_pos hforeign]
        obtain ⟨answer, t', rfl, hdone⟩ := yields_call_iff.mp h
        obtain ⟨rfl, rfl⟩ := yields_done_iff.mp hdone
        exact ⟨.next _ rfl (.done _), fun o ho => (Except.ok.inj ho).symm⟩
      · rename_i howned
        rw [if_neg howned]
        split at h
        · rename_i hupdate
          rw [if_pos hupdate]
          have hwrite := follows_write_concludeSync some
            (fun secrets =>
              f.secretCalls ++ [.updateDeployment (replacement cfg f owner secrets current)])
            follows_updateWorkload h
          simpa [Situation.calls, Situation.notices, Situation.outcome] using hwrite
        · rename_i hsame
          rw [if_neg hsame]
          refine ⟨follows_concludeSync h, ?_⟩
          rintro o rfl
          exact eq_of_yields_concludeSync h

theorem follows_sync (h : (sync cfg seen key).Yields t r) :
    Follows ((seen.situation key).calls cfg (secretsRead t) (writtenDeployment? t) ++
      (seen.situation key).notices.map .publish) t r ∧
      ∀ o, r = .ok o → o = (seen.situation key).outcome := by
  have hskip (hdone : (Plan.done (.ok .skipped) : Attempt Outcome).Yields t r) :
      Follows [] t r ∧ ∀ o, r = .ok o → o = .skipped := by
    obtain ⟨rfl, rfl⟩ := yields_done_iff.mp hdone
    exact ⟨.done _, fun o ho => (Except.ok.inj ho).symm⟩
  unfold sync at h
  unfold Observed.situation
  cases hf : seen.function? key with
  | none =>
      rw [hf] at h
      exact hskip h
  | some f =>
      rw [hf] at h
      dsimp only at h ⊢
      cases howner : f.ownerReference? with
      | none =>
          rw [howner] at h
          split at h
          · exact hskip h
          · exact hskip h
      | some owner =>
          rw [howner] at h
          dsimp only at h ⊢
          split at h
          · rename_i hname
            rw [if_pos hname]
            exact hskip h
          · rename_i hname
            rw [if_neg hname]
            exact follows_syncOwned howner h

/-- A reconcile makes the calls that its situation asks for, in order, and none after the first that
fails; it fails exactly when a call did, with that failure, and then publishes nothing.  If none
fails, it makes them all, publishes the event that goes with them, and says how it went. -/
theorem sync_calls (h : (sync cfg seen key).Yields t r) :
    t.map (·.call) <+: (seen.situation key).calls cfg (secretsRead t) (writtenDeployment? t) ++
      (seen.situation key).notices.map .publish ∧
    (∀ e ∈ t.dropLast, e.failure? = none) ∧
    (∀ err, r = .error err ↔ ∃ e ∈ t, e.failure? = some err) ∧
    (∀ err, r = .error err → t.map (·.call) <+:
      (seen.situation key).calls cfg (secretsRead t) (writtenDeployment? t)) ∧
    ∀ o, r = .ok o → o = (seen.situation key).outcome ∧
      t.map (·.call) = (seen.situation key).calls cfg (secretsRead t) (writtenDeployment? t) ++
        (seen.situation key).notices.map .publish := by
  obtain ⟨hfollows, houtcome⟩ := follows_sync h
  refine ⟨hfollows.calls_prefix, hfollows.failure?_dropLast, fun err => hfollows.eq_error_iff,
    ?_, ?_⟩
  · rintro err rfl
    exact hfollows.calls_prefix_of_error
  · rintro o rfl
    exact ⟨houtcome o rfl, hfollows.calls_eq⟩

/-- A function that declares three Secrets, one of them twice. -/
def secretiveFunction : FunctionObject :=
  ⟨{ ObjectMeta.empty with name := some "echo", ns := some "openfaas-fn", uid := some "8f3c5e1a" },
    { FunctionSpec.empty with name := "echo", secrets := some ["db", "tls", "db", "api"] }, none⟩

def secretiveOwner : OwnerReference :=
  ⟨FunctionObject.apiVersion, FunctionObject.kind, "echo", "8f3c5e1a", some true, some true⟩

def secretiveCache : Observed := ⟨fun _ => some secretiveFunction, fun _ => none⟩

def missing : ClusterError := .api ⟨"Failure", "secrets \"tls\" not found", "NotFound", 404⟩

/-- Its reconcile: the Service is there already, and the second Secret is not. -/
def refusedCreation : List Exchange := [
  ⟨.createService (secretiveFunction.service secretiveOwner),
    Except.error (.api ⟨"Failure", "services \"echo\" already exists", "AlreadyExists", 409⟩)⟩,
  ⟨.getSecret "openfaas-fn" "db", Except.ok ⟨.empty, some "Opaque", none, ∅⟩⟩,
  ⟨.getSecret "openfaas-fn" "tls", Except.error missing⟩]

theorem sync_calls_refused :
    (sync ⟨.always, true⟩ secretiveCache ⟨"openfaas-fn", "echo"⟩).Yields refusedCreation
      (.error (.secret "tls" missing)) ∧
    refusedCreation.map (·.call) <+:
      (secretiveCache.situation ⟨"openfaas-fn", "echo"⟩).calls ⟨.always, true⟩
        (secretsRead refusedCreation) (writtenDeployment? refusedCreation) ∧
    ∃ e ∈ refusedCreation, e.failure? = some (.secret "tls" missing) := by
  have h : (sync ⟨.always, true⟩ secretiveCache ⟨"openfaas-fn", "echo"⟩).Yields refusedCreation
      (.error (.secret "tls" missing)) := .call _ (.call _ (.call _ (.done _)))
  obtain ⟨-, -, herror, hprefix, -⟩ := sync_calls h
  exact ⟨h, hprefix _ rfl, (herror _).mp rfl⟩

end Sync

end FaasOperator
