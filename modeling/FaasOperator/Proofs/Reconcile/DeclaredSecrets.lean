/-
# `FaasOperator.Proofs.Reconcile.DeclaredSecrets` — the declared Secrets in a reconcile

## What is proved

In every reconcile of a function, however its calls are answered (`sync_takes_declared`):

* the Secrets that it reads are those that the function declares, each name once and in the order of
  the first occurrences;
* it stops at the first that cannot be read, with an error that names it, and has sent no Deployment
  then;
* every Deployment that it sends, to create it or to replace one, is sent after all of them were
  read, is rendered with just what was read, and holds each of them once, as a pull secret or as a
  projection.
-/
import FaasOperator.Proofs.Reconcile.Confined
import FaasOperator.Proofs.Workload.Projections

namespace FaasOperator

/-! ## Reads and writes -/

/-- The namespace and the name of the Secret that the call reads. -/
def Call.secretRead? : Call → Option (String × String)
  | .getSecret ns name => some (ns, name)
  | .createService _ | .createDeployment _ | .updateDeployment _ | .patchStatus _ _ _
  | .publish _ => none

/-- The call neither reads a Secret nor sends a Deployment. -/
structure Call.Aside (c : Call) : Prop where
  reads : c.secretRead? = none
  sends : c.sent? = none

theorem Call.secretRead?_of_sent {c : Call} {d : Deployment} (h : c.sent? = some d) :
    c.secretRead? = none := by
  cases c with
  | createDeployment _ | updateDeployment _ => rfl
  | createService _ | getSecret _ _ | patchStatus _ _ _ | publish _ => cases h

theorem Exchange.secret?_of_no_read {e : Exchange} (h : e.call.secretRead? = none) :
    e.secret? = none := by
  obtain ⟨c, answer⟩ := e
  cases c with
  | getSecret ns name => cases h
  | createService _ | createDeployment _ | updateDeployment _ | patchStatus _ _ _ | publish _ => rfl

theorem map_fst_secrets {t : List Exchange} (h : ∀ e ∈ t, e.failure? = none) :
    (t.filterMap (·.secret?)).map (·.1) =
      ((t.map (·.call)).filterMap (·.secretRead?)).map (·.2) := by
  induction t with
  | nil => rfl
  | cons e t ih =>
      obtain ⟨hfirst, hrest⟩ := List.forall_mem_cons.mp h
      obtain ⟨c, answer⟩ := e
      cases c with
      | getSecret ns name =>
          cases (answer : Except ClusterError Secret) with
          | ok s => exact congrArg (name :: ·) (ih hrest)
          | error err => cases hfirst
      | createService _ | createDeployment _ | updateDeployment _ | patchStatus _ _ _
      | publish _ => exact ih hrest

theorem Follows.getLast?_of_failure {α : Type} {s : List Call} {t : List Exchange}
    {r : Except ReconcileError α} {e : Exchange} {err : ReconcileError} (h : Follows s t r)
    (he : e ∈ t) (hfail : e.failure? = some err) : t.getLast? = some e := by
  induction h with
  | done _ => cases he
  | @next c _ t _ answer hnone _ ih =>
      rcases List.mem_cons.mp he with rfl | he
      · rw [hnone] at hfail
        cases hfail
      · rw [List.getLast?_cons, ih he]
        rfl
  | stop answer _ => rw [List.mem_singleton.mp he, List.getLast?_singleton]

/-! ## Scripts -/

section Scripts

variable {f : FunctionObject} {P : Deployment → Prop} {script before after : List Call} {c : Call}
  {d : Deployment}

/-- If a Deployment is written at all, then it is one, of this kind, after the Secrets that the
function declares are read. -/
inductive WritesOnce (f : FunctionObject) (P : Deployment → Prop) : List Call → Prop
  | never {script : List Call} (aside : ∀ c ∈ script, c.Aside) : WritesOnce f P script
  | once {front rest : List Call} {write : Call} {d : Deployment} (first : ∀ c ∈ front, c.Aside)
      (sends : write.sent? = some d) (kind : P d) (last : ∀ c ∈ rest, c.Aside) :
      WritesOnce f P (front ++ f.secretCalls ++ write :: rest)

theorem secretRead?_secretCalls (f : FunctionObject) :
    f.secretCalls.filterMap (·.secretRead?) =
      f.spec.secretNames.map (f.metadata.anyNamespace, ·) := by
  rw [FunctionObject.secretCalls, List.filterMap_map]
  exact congrFun List.filterMap_eq_map' _

theorem sent?_secretCalls (h : c ∈ f.secretCalls) : c.sent? = none := by
  obtain ⟨name, -, rfl⟩ := List.mem_map.mp h
  rfl

theorem filterMap_of_aside (h : ∀ c ∈ script, c.Aside) :
    script.filterMap (·.secretRead?) = [] :=
  List.filterMap_eq_nil_iff.mpr fun c hc => (h c hc).reads

theorem WritesOnce.reads_in_order (h : WritesOnce f P script) :
    script.filterMap (·.secretRead?) <+:
      f.spec.secretNames.map (f.metadata.anyNamespace, ·) := by
  cases h with
  | never aside =>
      rw [filterMap_of_aside aside]
      exact List.nil_prefix
  | once first sends kind last =>
      rw [List.filterMap_append, List.filterMap_append, filterMap_of_aside first,
        secretRead?_secretCalls, List.filterMap_cons_none (Call.secretRead?_of_sent sends),
        filterMap_of_aside last, List.append_nil]
      exact List.prefix_rfl

/-- What is found only once in a list is found at its place in each of its prefixes. -/
theorem eq_of_prefix_of_once {α β : Type} {p : α → Option β} {l₁ l₂ a b : List α} {x w : α} {y : β}
    (h : l₁ ++ x :: l₂ <+: a ++ w :: b) (hx : p x = some y) (ha : ∀ z ∈ a, p z = none)
    (hb : ∀ z ∈ b, p z = none) : l₁ = a ∧ x = w ∧ l₂ <+: b := by
  have hne {z : α} (hz : p z = none) : x ≠ z := by
    rintro rfl
    rw [hz] at hx
    cases hx
  induction a generalizing l₁ with
  | nil =>
      cases l₁ with
      | nil =>
          obtain ⟨rfl, hrest⟩ := List.cons_prefix_cons.mp h
          exact ⟨rfl, rfl, hrest⟩
      | cons z l₁ =>
          obtain ⟨-, hrest⟩ := List.cons_prefix_cons.mp h
          have hmem : x ∈ b := hrest.subset (List.mem_append_right l₁ List.mem_cons_self)
          exact absurd rfl (hne (hb x hmem))
  | cons z a ih =>
      obtain ⟨hz, hnone⟩ := List.forall_mem_cons.mp ha
      cases l₁ with
      | nil => exact absurd (List.cons_prefix_cons.mp h).1 (hne hz)
      | cons z' l₁ =>
          obtain ⟨rfl, hrest⟩ := List.cons_prefix_cons.mp h
          obtain ⟨rfl, rfl, hafter⟩ := ih hrest hnone
          exact ⟨rfl, rfl, hafter⟩

theorem WritesOnce.around (h : WritesOnce f P script) (hcalls : before ++ c :: after <+: script)
    (hc : c.sent? = some d) :
    before.filterMap (·.secretRead?) = f.spec.secretNames.map (f.metadata.anyNamespace, ·) ∧
      P d ∧ ∀ c ∈ after, c.Aside := by
  cases h with
  | never aside =>
      have hmem : c ∈ script := hcalls.subset (List.mem_append_right before List.mem_cons_self)
      rw [(aside c hmem).sends] at hc
      cases hc
  | @once front rest write d' first sends kind last =>
      have hfirst : ∀ c ∈ front ++ f.secretCalls, c.sent? = none := List.forall_mem_append.mpr
        ⟨fun c hc => (first c hc).sends, fun c hc => sent?_secretCalls hc⟩
      obtain ⟨rfl, rfl, hafter⟩ :=
        eq_of_prefix_of_once hcalls hc hfirst fun c hc => (last c hc).sends
      refine ⟨?_, ?_, fun c hc => last c (hafter.subset hc)⟩
      · rw [List.filterMap_append, filterMap_of_aside first, secretRead?_secretCalls,
          List.nil_append]
      · rw [sends] at hc
        cases hc
        exact kind

end Scripts

/-! ## A reconcile -/

def Deployment.RenderedWith (cfg : ReconcileConfig) (f : FunctionObject) (secrets : Secrets)
    (d : Deployment) : Prop :=
  ∃ owner, f.ownerReference? = some owner ∧
    d.spec = (f.deployment owner secrets cfg.imagePullPolicy).spec

section Sync

variable {cfg : ReconcileConfig} {seen : Observed} {key : ResourceKey} {f : FunctionObject}
  {owner : OwnerReference} {t : List Exchange} {r : Except ReconcileError Outcome}

theorem aside_statusCalls (cfg : ReconcileConfig) (f : FunctionObject) (d : Option Deployment) :
    ∀ c ∈ f.statusCalls cfg d, c.Aside := by
  intro c hc
  unfold FunctionObject.statusCalls at hc
  split at hc
  · cases hc
  · split at hc
    · rw [List.mem_singleton.mp hc]
      exact ⟨rfl, rfl⟩
    · cases hc

theorem aside_publish (notices : List Notice) : ∀ c ∈ notices.map Call.publish, c.Aside := by
  intro c hc
  obtain ⟨notice, -, rfl⟩ := List.mem_map.mp hc
  exact ⟨rfl, rfl⟩

theorem writesOnce_situation (howner : f.ownerReference? = some owner)
    (current : Option Deployment) (secrets : Secrets) (written : Option Deployment) :
    WritesOnce f (Deployment.RenderedWith cfg f secrets)
      ((f.situation owner current).calls cfg secrets written ++
        (f.situation owner current).notices.map .publish) := by
  have hlast (notices : List Notice) (d : Option Deployment) :
      ∀ c ∈ f.statusCalls cfg d ++ notices.map .publish, c.Aside :=
    List.forall_mem_append.mpr ⟨aside_statusCalls cfg f d, aside_publish notices⟩
  unfold FunctionObject.situation
  split
  · -- a Service and a Deployment are created
    have hcreate : WritesOnce f (Deployment.RenderedWith cfg f secrets)
        ([.createService (f.service owner)] ++ f.secretCalls ++
          .createDeployment (f.deployment owner secrets cfg.imagePullPolicy) ::
            (f.statusCalls cfg written ++ [syncedNotice f].map .publish)) :=
      .once (List.forall_mem_singleton.mpr ⟨rfl, rfl⟩) rfl ⟨owner, howner, rfl⟩ (hlast _ _)
    simpa [Situation.calls, Situation.notices] using hcreate
  · rename_i d
    split
    · exact .never (aside_publish _)
    · split
      · -- the Deployment is replaced
        have hupdate : WritesOnce f (Deployment.RenderedWith cfg f secrets)
            ([] ++ f.secretCalls ++ .updateDeployment (replacement cfg f owner secrets d) ::
              (f.statusCalls cfg written ++ [syncedNotice f].map .publish)) :=
          .once (List.forall_mem_nil _) rfl ⟨owner, howner, rfl⟩ (hlast _ _)
        simpa [Situation.calls, Situation.notices] using hupdate
      · exact .never (hlast [syncedNotice f] (some d))

theorem writesOnce_sync (hf : seen.function? key = some f) (secrets : Secrets)
    (written : Option Deployment) :
    WritesOnce f (Deployment.RenderedWith cfg f secrets)
      ((seen.situation key).calls cfg secrets written ++
        (seen.situation key).notices.map .publish) := by
  rcases seen.situation_cases key with hskip | ⟨f', owner, hf', howner, -, hsituation⟩
  · rw [hskip]
    exact .never (List.forall_mem_nil _)
  · rw [hf] at hf'
    cases hf'
    rw [hsituation]
    exact writesOnce_situation howner _ secrets written

/-- The Secrets were read under the names that the function declares.  They are what the Deployment
is rendered with, so that none that is declared is left out, and what its pod holds. -/
structure Deployment.TakesDeclared (cfg : ReconcileConfig) (f : FunctionObject)
    (read : List (String × Secret)) (d : Deployment) : Prop where
  names : read.map (·.1) = f.spec.secretNames
  rendered : d.RenderedWith cfg f (.ofList read)
  resolved : ∀ name ∈ f.spec.secrets.getD [], (StringMap.ofList read).contains name = true
  holds : ∃ p, d.pod? = some p ∧ p.Holds read

theorem takesDeclared_of_rendered {read : List (String × Secret)} {d : Deployment}
    (hnames : read.map (·.1) = f.spec.secretNames) (hd : d.RenderedWith cfg f (.ofList read)) :
    d.TakesDeclared cfg f read where
  names := hnames
  rendered := hd
  resolved := by
    intro name hname
    have hmem : name ∈ read.map (·.1) := hnames ▸ List.mem_eraseDups.mpr hname
    obtain ⟨e, he, rfl⟩ := List.mem_map.mp hmem
    have hnodup : (read.map (·.1)).Nodup := hnames ▸ (eachOnce_eraseDups _).nodup
    rw [StringMap.contains, StringMap.get?_ofList_of_mem hnodup he]
    rfl
  holds := by
    obtain ⟨owner, -, hspec⟩ := hd
    obtain ⟨p, hp, hholds⟩ := FunctionObject.holds_deployment hnames owner cfg.imagePullPolicy
    refine ⟨p, ?_, hholds⟩
    rw [← hp, Deployment.pod?, hspec]
    rfl

/-- Up to the call that sends a Deployment, all Secrets that the function declares were read, and it
is rendered with them; after it none is read. -/
theorem takesDeclared_of_sent (hf : seen.function? key = some f)
    (h : (sync cfg seen key).Yields t r) {before after : List Exchange} {e : Exchange}
    {d : Deployment} (ht : t = before ++ e :: after) (he : e.call.sent? = some d) :
    d.TakesDeclared cfg f (before.filterMap (·.secret?)) ∧
      (∀ e ∈ before, e.failure? = none) ∧ ∀ e ∈ after, e.call.Aside := by
  obtain ⟨hfollows, -⟩ := follows_sync h
  have hcalls : before.map (·.call) ++ e.call :: after.map (·.call) <+:
      (seen.situation key).calls cfg (secretsRead t) (writtenDeployment? t) ++
        (seen.situation key).notices.map .publish := by
    have hprefix := hfollows.calls_prefix
    rwa [ht, List.map_append, List.map_cons, ← ht] at hprefix
  have hbefore : ∀ e ∈ before, e.failure? = none := fun e' he' => by
    apply hfollows.failure?_dropLast
    rw [ht, List.dropLast_append_of_ne_nil (List.cons_ne_nil _ _)]
    exact List.mem_append_left _ he'
  obtain ⟨hreads, hrendered, hafter⟩ := (writesOnce_sync hf _ _).around hcalls he
  have haside : ∀ e ∈ after, e.call.Aside := fun e he => hafter _ (List.mem_map_of_mem he)
  -- the Secrets of the whole reconcile are those that were read before
  have hread : secretsRead t = .ofList (before.filterMap (·.secret?)) := by
    rw [ht, secretsRead_append (List.forall_mem_cons.mpr
      ⟨Exchange.secret?_of_no_read (Call.secretRead?_of_sent he),
        fun e he => Exchange.secret?_of_no_read (haside e he).reads⟩)]
    rfl
  rw [hread] at hrendered
  refine ⟨takesDeclared_of_rendered ?_ hrendered, hbefore, haside⟩
  rw [map_fst_secrets hbefore, hreads, List.map_map]
  exact List.map_id _

/-- A reconcile reads the Secrets that the function declares, each name once and in the order of the
first occurrences.  It stops at the first that cannot be read, with an error that names it, and has
sent no Deployment then.  Every Deployment that it does send, to create it or to replace one, is
sent after all of them were read, is rendered with just them, and holds each of them once. -/
theorem sync_takes_declared (hf : seen.function? key = some f)
    (h : (sync cfg seen key).Yields t r) :
    EachOnce f.spec.secretNames (f.spec.secrets.getD []) ∧
    t.filterMap (·.call.secretRead?) <+:
      f.spec.secretNames.map (f.metadata.anyNamespace, ·) ∧
    (∀ ns name err, (⟨.getSecret ns name, Except.error err⟩ : Exchange) ∈ t →
      r = .error (.secret name err) ∧
      t.getLast? = some ⟨.getSecret ns name, Except.error err⟩ ∧ ∀ e ∈ t, e.call.sent? = none) ∧
    ∀ before e after d, t = before ++ e :: after → e.call.sent? = some d →
      d.TakesDeclared cfg f (before.filterMap (·.secret?)) := by
  obtain ⟨hfollows, -⟩ := follows_sync h
  refine ⟨eachOnce_eraseDups _, ?_, ?_, ?_⟩
  · have hreads := hfollows.calls_prefix.filterMap (·.secretRead?)
    rw [List.filterMap_map] at hreads
    exact hreads.trans (writesOnce_sync hf _ _).reads_in_order
  · intro ns name err hmem
    have hfail : Exchange.failure? ⟨.getSecret ns name, Except.error err⟩ =
        some (.secret name err) := rfl
    refine ⟨hfollows.eq_error_iff.mpr ⟨_, hmem, hfail⟩, hfollows.getLast?_of_failure hmem hfail,
      fun e he => ?_⟩
    -- a read that failed is neither before what is sent nor after it
    cases hsent : e.call.sent? with
    | none => rfl
    | some d =>
        obtain ⟨before, after, rfl⟩ := List.append_of_mem he
        obtain ⟨-, hbefore, hafter⟩ := takesDeclared_of_sent hf h rfl hsent
        rcases List.mem_append.mp hmem with hmem | hmem
        · rw [hbefore _ hmem] at hfail
          cases hfail
        · rcases List.mem_cons.mp hmem with rfl | hmem
          · cases hsent
          · cases (hafter _ hmem).reads
  · intro before e after d ht he
    exact (takesDeclared_of_sent hf h ht he).1

/-- What is read for `secretiveFunction`: a credential for the image registry between two Secrets
to project. -/
def secretiveReads : List (String × Secret) := [
  ("db", ⟨.empty, some "Opaque", some (.ofList [("user", []), ("password", [])]), ∅⟩),
  ("tls", ⟨.empty, some "kubernetes.io/dockerconfigjson", none, ∅⟩),
  ("api", ⟨.empty, none, none, ∅⟩)]

def secretiveDeployment : Deployment :=
  secretiveFunction.deployment secretiveOwner (.ofList secretiveReads) .always

def secretiveStart : List Exchange :=
  ⟨.createService (secretiveFunction.service secretiveOwner), Except.ok ()⟩ ::
    secretiveReads.map fun e => ⟨.getSecret "openfaas-fn" e.1, Except.ok e.2⟩

theorem sync_takes_declared_secretive :
    (sync ⟨.always, true⟩ secretiveCache ⟨"openfaas-fn", "echo"⟩).Yields
      (secretiveStart ++ [⟨.createDeployment secretiveDeployment, Except.error missing⟩])
      (.error (.cluster missing)) ∧
    secretiveDeployment.TakesDeclared ⟨.always, true⟩ secretiveFunction secretiveReads := by
  have h : (sync ⟨.always, true⟩ secretiveCache ⟨"openfaas-fn", "echo"⟩).Yields
      (secretiveStart ++ [⟨.createDeployment secretiveDeployment, Except.error missing⟩])
      (.error (.cluster missing)) :=
    .call _ (.call _ (.call _ (.call _ (.call _ (.done _)))))
  obtain ⟨-, -, -, hsent⟩ := sync_takes_declared rfl h
  exact ⟨h, hsent _ _ _ _ rfl rfl⟩

end Sync

end FaasOperator
