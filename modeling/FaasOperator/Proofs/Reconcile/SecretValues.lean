/-
# `FaasOperator.Proofs.Reconcile.SecretValues` — no bytes of a Secret get into what a reconcile does

## What is proved

Take two clusters that answer all calls alike, but for the bytes that Secrets hold (`AnswerAlike`).
Carried out in both, a reconcile makes the same calls with the same contents in the same order,
events included, and comes to the same result (`sync_ignores_secret_values`).  Rendering, too, makes
the same Deployment of Secrets that are alike under the declared names, whatever there is under
others.

## How

Two plans are indistinguishable if they make the same calls and come to the same result as long as
their answers differ in such bytes at most (`Plan.Alike`).  A reconcile is indistinguishable from
itself, and that is not so of any plan, for a plan could look at the bytes.
-/
import FaasOperator.Proofs.Reconcile.Protocol
import FaasOperator.Proofs.Workload.SecretValues

namespace FaasOperator

open Plan

/-- Both failed in the same way, or both succeeded with related results. -/
inductive ExceptRel {ε α β : Type} (r : α → β → Prop) : Except ε α → Except ε β → Prop
  | error (e : ε) : ExceptRel r (.error e) (.error e)
  | ok {a : α} {b : β} : r a b → ExceptRel r (.ok a) (.ok b)

/-- The answers to the call are the same, but for the bytes of a Secret. -/
def Call.AnswersAlike : (c : Call) → c.Answer → c.Answer → Prop
  | .getSecret _ _ => ExceptRel Secret.Alike
  | .createService _ | .createDeployment _ | .updateDeployment _ | .patchStatus _ _ _
  | .publish _ => Eq

/-! ## Indistinguishable plans -/

/-- As long as they are answered alike, the plans make the same calls and come to related results.
-/
inductive Plan.Alike {α β : Type} (r : α → β → Prop) : Plan α → Plan β → Prop
  | done {a : α} {b : β} : r a b → Alike r (.done a) (.done b)
  | call {c : Call} {next : c.Answer → Plan α} {next' : c.Answer → Plan β} :
      (∀ a a', c.AnswersAlike a a' → Alike r (next a) (next' a')) →
      Alike r (.call c next) (.call c next')

section Alike

variable {α β α' β' : Type}

theorem Plan.Alike.andThen {r : α → β → Prop} {r' : α' → β' → Prop} {p : Plan α} {q : Plan β}
    {f : α → Plan α'} {g : β → Plan β'} (h : p.Alike r q)
    (hfg : ∀ a b, r a b → (f a).Alike r' (g b)) : (p.andThen f).Alike r' (q.andThen g) := by
  induction h with
  | done hab => exact hfg _ _ hab
  | call _ ih => exact .call fun a a' ha => ih a a' ha

theorem Plan.Alike.of_only {p : Plan α} (h : p.Only fun c => ¬c.ReadsSecret) : p.Alike Eq p := by
  induction p with
  | done a => exact .done rfl
  | call c next ih =>
      obtain ⟨hc, hnext⟩ := h
      refine .call fun a a' ha => ?_
      have heq : a = a' := by
        cases c with
        | getSecret ns name => exact absurd trivial hc
        | createService _ | createDeployment _ | updateDeployment _ | patchStatus _ _ _
        | publish _ => exact ha
      rw [← heq]
      exact ih a (hnext a)

theorem Attempt.alike_andThen {r : α → β → Prop} {p : Attempt α} {q : Attempt β}
    {f : α → Attempt α'} {g : β → Attempt α'} (h : p.Alike (ExceptRel r) q)
    (hfg : ∀ a b, r a b → (f a).Alike Eq (g b)) :
    (Attempt.andThen p f).Alike Eq (Attempt.andThen q g) := by
  refine h.andThen fun a b hab => ?_
  cases hab with
  | error e => exact .done rfl
  | ok hab => exact hfg _ _ hab

theorem Attempt.alike_andThen_of_eq {p q : Attempt α} {f g : α → Attempt β} (h : p.Alike Eq q)
    (hfg : ∀ a, (f a).Alike Eq (g a)) : (Attempt.andThen p f).Alike Eq (Attempt.andThen q g) := by
  refine h.andThen fun a b hab => ?_
  rw [← hab]
  cases a with
  | error e => exact .done rfl
  | ok a => exact hfg a

end Alike

/-! ## The parts of a reconcile -/

section Parts

variable {cfg : ReconcileConfig} {f : FunctionObject} {owner : OwnerReference}

theorem alike_resolveSecrets (ns : String) (names : List String) {declared : List String}
    (hnames : ∀ name ∈ names, name ∈ declared) {a b : Secrets} (h : a.AlikeOn declared b) :
    (resolveSecrets ns names a).Alike (ExceptRel (Secrets.AlikeOn declared))
      (resolveSecrets ns names b) := by
  induction names generalizing a b with
  | nil => exact .done (.ok h)
  | cons name names ih =>
      have hrest : ∀ n ∈ names, n ∈ declared := fun n hn => hnames n (List.mem_cons_of_mem name hn)
      rw [resolveSecrets, resolveSecrets, h.contains (hnames name List.mem_cons_self)]
      split
      · exact ih hrest h
      · refine .call fun answer answer' hanswer => ?_
        cases (hanswer : ExceptRel Secret.Alike answer answer') with
        | error e => exact .done (.error _)
        | ok hs => exact ih hrest (h.insert hs name)

/-- What is done with the Secrets of a function does not depend on their bytes. -/
theorem alike_resolveSecrets_andThen {α : Type} {g : Secrets → Attempt α}
    (hg : ∀ a b, Secrets.AlikeOn (f.spec.secrets.getD []) a b → g a = g b)
    (hreads : ∀ secrets, (g secrets).Only fun c => ¬c.ReadsSecret) :
    (Attempt.andThen f.resolveSecrets g).Alike Eq (Attempt.andThen f.resolveSecrets g) := by
  have hempty : Secrets.AlikeOn (f.spec.secrets.getD []) ∅ ∅ := fun _ _ => .none
  refine Attempt.alike_andThen (alike_resolveSecrets _ _ (fun _ h => h) hempty) ?_
  intro a b hab
  rw [hg a b hab]
  exact .of_only (hreads b)

theorem alike_createDeployment :
    (createDeployment cfg f owner).Alike Eq (createDeployment cfg f owner) := by
  refine alike_resolveSecrets_andThen (fun a b hab => ?_) (fun secrets => ⟨id, fun answer => ?_⟩)
  · rw [FunctionObject.deployment_eq_of_alike hab]
    congr 1
    funext answer
    cases (answer : Except ClusterError Deployment) <;> rfl
  · cases (answer : Except ClusterError Deployment) with
    | ok d => trivial
    | error e => trivial

theorem alike_createWorkload :
    (createWorkload cfg f owner).Alike Eq (createWorkload cfg f owner) := by
  refine .call fun answer answer' hanswer => ?_
  cases (hanswer : answer = answer')
  cases (answer : Except ClusterError Unit) with
  | ok u => exact alike_createDeployment
  | error e =>
      dsimp only
      split
      · exact alike_createDeployment
      · exact .done rfl

theorem alike_updateWorkload (current : Deployment) :
    (updateWorkload cfg f owner current).Alike Eq (updateWorkload cfg f owner current) := by
  refine alike_resolveSecrets_andThen (fun a b hab => ?_) (fun secrets => ⟨id, fun answer => ?_⟩)
  · have hsame : replacement cfg f owner a current = replacement cfg f owner b current := by
      rw [replacement, replacement, FunctionObject.deployment_eq_of_alike hab]
    rw [hsame]
    congr 1
    funext answer
    cases (answer : Except ClusterError Deployment) <;> rfl
  · cases (answer : Except ClusterError Deployment) with
    | ok d => trivial
    | error e => trivial

theorem alike_concludeSync (outcome : Outcome) (d : Option Deployment) :
    (concludeSync cfg f outcome d).Alike Eq (concludeSync cfg f outcome d) := by
  refine .of_only ((concludeSync_only cfg f outcome d).mono ?_)
  intro c hreports hreads
  cases c with
  | getSecret ns name => exact hreports
  | createService _ | createDeployment _ | updateDeployment _ | patchStatus _ _ _ | publish _ =>
      exact hreads

theorem alike_syncOwned (current : Option Deployment) :
    (syncOwned cfg f owner current).Alike Eq (syncOwned cfg f owner current) := by
  unfold syncOwned
  split
  · exact Attempt.alike_andThen_of_eq alike_createWorkload fun created =>
      alike_concludeSync .created created
  · rename_i d
    split
    · exact .of_only ⟨id, fun _ => trivial⟩
    · split
      · exact Attempt.alike_andThen_of_eq (alike_updateWorkload d) fun updated =>
          alike_concludeSync .updated (some updated)
      · exact alike_concludeSync .unchanged (some d)

theorem alike_sync (cfg : ReconcileConfig) (seen : Observed) (key : ResourceKey) :
    (sync cfg seen key).Alike Eq (sync cfg seen key) := by
  rcases sync_cases cfg seen key with hskip | ⟨f, owner, -, -, -, hsync⟩
  · rw [hskip]
    exact .done rfl
  · rw [hsync]
    exact alike_syncOwned _

end Parts

/-! ## Two clusters -/

/-- Something that answers calls and has a state. -/
abbrev Responder (σ : Type) := (c : Call) → σ → c.Answer × σ

def Responder.after {σ : Type} (answer : Responder σ) (calls : List Call) (s : σ) : σ :=
  calls.foldl (fun s c => (answer c s).2) s

/-- Whatever calls were made before, the same on either side, the next one is answered alike. -/
def AnswerAlike {σ τ : Type} (answer : Responder σ) (s : σ) (answer' : Responder τ) (s' : τ) :
    Prop :=
  ∀ (past : List Call) (c : Call), c.AnswersAlike (answer c (answer.after past s)).1 (answer' c (answer'.after past s')).1

/-- The calls that a plan makes when it is carried out, in order, and what it comes to. -/
def Plan.trace {σ α : Type} (answer : Responder σ) : Plan α → σ → List Call × α
  | .done a, _ => ([], a)
  | .call c next, s =>
      let rest := (next (answer c s).1).trace answer (answer c s).2
      (c :: rest.1, rest.2)

section Clusters

variable {σ τ : Type} {answer : Responder σ} {answer' : Responder τ} {s : σ} {s' : τ}

theorem Plan.trace_result {α : Type} (answer : Responder σ) (p : Plan α) (s : σ) :
    (p.trace answer s).2 = (p.run answer s).1 := by
  induction p generalizing s with
  | done a => rfl
  | call c next ih => exact ih (answer c s).1 (answer c s).2

theorem AnswerAlike.call (h : AnswerAlike answer s answer' s') (c : Call) :
    AnswerAlike answer (answer c s).2 answer' (answer' c s').2 :=
  fun past next => h (c :: past) next

theorem Plan.Alike.trace_eq {α : Type} {p q : Plan α} (hpq : p.Alike Eq q)
    (h : AnswerAlike answer s answer' s') : p.trace answer s = q.trace answer' s' := by
  induction hpq generalizing s s' with
  | done hab => rw [Plan.trace, Plan.trace, hab]
  | @call c next next' _ ih =>
      have hrest := ih (answer c s).1 (answer' c s').1 (h [] c) (h.call c)
      rw [Plan.trace, Plan.trace, hrest]

end Clusters

/-- What Secrets hold does not get into what the operator writes.  In two clusters that answer all
calls alike but for the bytes that Secrets hold, a reconcile makes the same calls, events included,
in the same order, and comes to the same result; and from Secrets that are alike under the declared
names, whatever there is under others, the same Deployment is rendered. -/
theorem sync_ignores_secret_values :
    (∀ (cfg : ReconcileConfig) (seen : Observed) (key : ResourceKey) {σ τ : Type}
      (answer : Responder σ) (s : σ) (answer' : Responder τ) (s' : τ),
      AnswerAlike answer s answer' s' →
      (sync cfg seen key).trace answer s = (sync cfg seen key).trace answer' s' ∧
      ((sync cfg seen key).run answer s).1 = ((sync cfg seen key).run answer' s').1) ∧
    ∀ (f : FunctionObject) (owner : OwnerReference) (policy : PullPolicy) (a b : Secrets),
      Secrets.AlikeOn (f.spec.secrets.getD []) a b →
      f.deployment owner a policy = f.deployment owner b policy := by
  constructor
  · intro cfg seen key σ τ answer s answer' s' h
    have htrace := (alike_sync cfg seen key).trace_eq h
    refine ⟨htrace, ?_⟩
    rw [← Plan.trace_result, ← Plan.trace_result, htrace]
  · intro f owner policy a b hab
    exact FunctionObject.deployment_eq_of_alike hab owner policy

def passwordSecret (password : List UInt8) : Secret :=
  ⟨.empty, some "Opaque", some (StringMap.insert ∅ "password" password), ∅⟩

/-- A cluster where every call succeeds and all Secrets hold this password. -/
def passwordCluster (password : List UInt8) : Responder Unit
  | .createService _, s => ((Except.ok () : Except ClusterError Unit), s)
  | .createDeployment d, s => ((Except.ok d : Except ClusterError Deployment), s)
  | .updateDeployment d, s => ((Except.ok d : Except ClusterError Deployment), s)
  | .getSecret _ _, s => ((Except.ok (passwordSecret password) : Except ClusterError Secret), s)
  | .patchStatus _ _ _, s => ((Except.ok () : Except ClusterError Unit), s)
  | .publish _, s => ((), s)

theorem alike_passwordSecret (password password' : List UInt8) :
    (passwordSecret password).Alike (passwordSecret password') :=
  ⟨rfl, rfl⟩

theorem answerAlike_passwordCluster (password password' : List UInt8) :
    AnswerAlike (passwordCluster password) () (passwordCluster password') () := by
  intro past c
  cases c with
  | getSecret ns name => exact .ok (alike_passwordSecret password password')
  | createService _ | createDeployment _ | updateDeployment _ | patchStatus _ _ _ | publish _ =>
      rfl

theorem sync_ignores_secret_values_passwords :
    passwordSecret [1, 2] ≠ passwordSecret [3] ∧
    AnswerAlike (passwordCluster [1, 2]) () (passwordCluster [3]) () ∧
    (sync ⟨.always, true⟩ secretiveCache ⟨"openfaas-fn", "echo"⟩).trace (passwordCluster [1, 2]) () =
      (sync ⟨.always, true⟩ secretiveCache ⟨"openfaas-fn", "echo"⟩).trace (passwordCluster [3]) () ∧
    Secrets.AlikeOn ["db", "tls", "db", "api"]
      (StringMap.insert ∅ "db" (passwordSecret [1, 2]))
      (StringMap.insert (StringMap.insert ∅ "other" (passwordSecret [1, 2])) "db"
        (passwordSecret [3])) ∧
    secretiveFunction.deployment secretiveOwner
        (StringMap.insert ∅ "db" (passwordSecret [1, 2])) .always =
      secretiveFunction.deployment secretiveOwner
        (StringMap.insert (StringMap.insert ∅ "other" (passwordSecret [1, 2])) "db"
          (passwordSecret [3])) .always := by
  have hanswers := answerAlike_passwordCluster [1, 2] [3]
  have hsecrets : Secrets.AlikeOn ["db", "tls", "db", "api"]
      (StringMap.insert ∅ "db" (passwordSecret [1, 2]))
      (StringMap.insert (StringMap.insert ∅ "other" (passwordSecret [1, 2])) "db"
        (passwordSecret [3])) := by
    have hdb := alike_passwordSecret [1, 2] [3]
    intro name hname
    simp only [List.mem_cons, List.not_mem_nil, or_false] at hname
    rcases hname with rfl | rfl | rfl | rfl
    · exact .some hdb
    · exact .none
    · exact .some hdb
    · exact .none
  obtain ⟨hsync, hdeployment⟩ := sync_ignores_secret_values
  exact ⟨by decide, hanswers, (hsync _ _ _ _ _ _ _ hanswers).1, hsecrets,
    hdeployment secretiveFunction _ _ _ _ hsecrets⟩

end FaasOperator
