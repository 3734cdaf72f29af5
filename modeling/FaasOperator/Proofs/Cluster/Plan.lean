/-
# `FaasOperator.Proofs.Cluster.Plan` — what can be said of a plan without saying what answers it

Four relations, each with its rules for a plan that is done, for a call, and for one plan after
another.

* `Only`: a property of all calls that the plan can come to, whatever the answers.
* `Yields`: which calls are made and what the result is, if they are answered in one particular way.
* `After`: what is left of the plan half way through such answers.
* `Meets`: what the plan cannot miss as long as the answers are of some kind.

They are about the same calls: what a plan makes on the way to some result is what it can come to
(`only_of_yields`), and carrying it out yields its result, whoever answers (`yields_run`).
-/
import FaasOperator.Cluster.Plan

namespace FaasOperator

/-- A call and what it was answered with. -/
structure Exchange where
  call : Call
  answer : call.Answer

namespace Plan

variable {α β : Type}

/-- Every call that the plan can come to has the property. -/
def Only (P : Call → Prop) : Plan α → Prop
  | .done _ => True
  | .call c next => P c ∧ ∀ a, (next a).Only P

theorem Only.mono {P Q : Call → Prop} (h : ∀ c, P c → Q c) {p : Plan α} (hp : p.Only P) :
    p.Only Q := by
  induction p with
  | done a => trivial
  | call c next ih => exact ⟨h c hp.1, fun a => ih a (hp.2 a)⟩

theorem Only.andThen {P : Call → Prop} {p : Plan α} {f : α → Plan β} (hp : p.Only P)
    (hf : ∀ a, (f a).Only P) : (p.andThen f).Only P := by
  induction p with
  | done a => exact hf a
  | call c next ih => exact ⟨hp.1, fun a => ih a (hp.2 a)⟩

/-- With these exchanges, in order, the plan comes to this result. -/
inductive Yields : Plan α → List Exchange → α → Prop
  | done (a : α) : Yields (.done a) [] a
  | call {c : Call} {next : c.Answer → Plan α} {t : List Exchange} {r : α} (a : c.Answer) :
      Yields (next a) t r → Yields (.call c next) (⟨c, a⟩ :: t) r

theorem yields_done_iff {a r : α} {t : List Exchange} :
    (Plan.done a).Yields t r ↔ t = [] ∧ r = a := by
  constructor
  · intro h
    cases h
    exact ⟨rfl, rfl⟩
  · rintro ⟨rfl, rfl⟩
    exact .done _

theorem yields_call_iff {c : Call} {next : c.Answer → Plan α} {t : List Exchange} {r : α} :
    (Plan.call c next).Yields t r ↔ ∃ a t', t = ⟨c, a⟩ :: t' ∧ (next a).Yields t' r := by
  constructor
  · intro h
    cases h with
    | call a h => exact ⟨a, _, rfl, h⟩
  · rintro ⟨a, t', rfl, h⟩
    exact .call a h

theorem yields_andThen_iff {p : Plan α} {f : α → Plan β} {t : List Exchange} {r : β} :
    (p.andThen f).Yields t r ↔ ∃ t₁ a t₂, t = t₁ ++ t₂ ∧ p.Yields t₁ a ∧ (f a).Yields t₂ r := by
  induction p generalizing t with
  | done a =>
      constructor
      · intro h
        exact ⟨[], a, t, rfl, .done a, h⟩
      · rintro ⟨t₁, a', t₂, rfl, h₁, h₂⟩
        obtain ⟨rfl, rfl⟩ := yields_done_iff.mp h₁
        exact h₂
  | call c next ih =>
      constructor
      · intro h
        obtain ⟨a, t', rfl, hnext⟩ := yields_call_iff.mp h
        obtain ⟨t₁, b, t₂, rfl, h₁, h₂⟩ := (ih a).mp hnext
        exact ⟨⟨c, a⟩ :: t₁, b, t₂, rfl, .call a h₁, h₂⟩
      · rintro ⟨t₁, b, t₂, rfl, h₁, h₂⟩
        obtain ⟨a, t', rfl, hnext⟩ := yields_call_iff.mp h₁
        exact .call a ((ih a).mpr ⟨t', b, t₂, rfl, hnext, h₂⟩)

/-- What is left of the plan after these exchanges. -/
inductive After (p : Plan α) : List Exchange → Plan α → Prop
  | nil : After p [] p
  | call {t : List Exchange} {c : Call} {next : c.Answer → Plan α} (a : c.Answer) :
      After p t (.call c next) → After p (t ++ [⟨c, a⟩]) (next a)

theorem After.only {P : Call → Prop} {p q : Plan α} {t : List Exchange} (h : p.After t q)
    (hp : p.Only P) : q.Only P := by
  induction h with
  | nil => exact hp
  | call a _ ih => exact ih.2 a

theorem After.yields_append {p q : Plan α} {t t' : List Exchange} {r : α} (h : p.After t q)
    (hq : q.Yields t' r) : p.Yields (t ++ t') r := by
  induction h generalizing t' with
  | nil => exact hq
  | call a _ ih =>
      rw [List.append_assoc]
      exact ih (.call a hq)

theorem After.yields {p : Plan α} {t : List Exchange} {r : α} (h : p.After t (.done r)) :
    p.Yields t r := by
  have hr := h.yields_append (.done r)
  rwa [List.append_nil] at hr

theorem after_done_iff {a : α} {q : Plan α} {t : List Exchange} :
    (Plan.done a).After t q ↔ t = [] ∧ q = .done a := by
  constructor
  · intro h
    induction h with
    | nil => exact ⟨rfl, rfl⟩
    | call _ _ ih => cases ih.2
  · rintro ⟨rfl, rfl⟩
    exact .nil

/-- What is left of a call is the call itself, or what is left after its answer. -/
theorem after_call_iff {c : Call} {next : c.Answer → Plan α} {q : Plan α} {t : List Exchange} :
    (Plan.call c next).After t q ↔
      (t = [] ∧ q = .call c next) ∨ ∃ a t', t = ⟨c, a⟩ :: t' ∧ (next a).After t' q := by
  constructor
  · intro h
    induction h with
    | nil => exact .inl ⟨rfl, rfl⟩
    | call a _ ih =>
        obtain ⟨rfl, heq⟩ | ⟨a', t', rfl, hafter⟩ := ih
        · cases heq
          exact .inr ⟨a, [], rfl, .nil⟩
        · exact .inr ⟨a', _, rfl, .call a hafter⟩
  · rintro (⟨rfl, rfl⟩ | ⟨a, t', rfl, hafter⟩)
    · exact .nil
    · -- the first exchange comes before all the others
      induction hafter with
      | nil => exact .call a .nil
      | call a' _ ih => exact .call a' ih

theorem Yields.after {p : Plan α} {t : List Exchange} {r : α} (h : p.Yields t r) :
    p.After t (.done r) := by
  induction h with
  | done a => exact .nil
  | call a _ ih => exact after_call_iff.mpr (.inr ⟨a, _, rfl, ih⟩)

/-- As long as each answer is admissible, the plan comes to such a call, or else to such a result. -/
def Meets (A : (c : Call) → c.Answer → Prop) (W : Call → Prop) (L : α → Prop) : Plan α → Prop
  | .done a => L a
  | .call c next => W c ∨ ∀ a, A c a → (next a).Meets A W L

section Meets

variable {A : (c : Call) → c.Answer → Prop} {W W' : Call → Prop} {L : α → Prop} {L' : β → Prop}

theorem Meets.mono {p : Plan α} (hp : p.Meets A W L) (h : ∀ c, W c → W' c) : p.Meets A W' L := by
  induction p with
  | done a => exact hp
  | call c next ih => exact hp.imp (h c) fun hnext a ha => ih a (hnext a ha)

theorem Meets.andThen {p : Plan α} {f : α → Plan β} (hp : p.Meets A W L)
    (hf : ∀ a, L a → (f a).Meets A W L') : (p.andThen f).Meets A W L' := by
  induction p with
  | done a => exact hf a hp
  | call c next ih => exact hp.imp id fun hnext a ha => ih a (hnext a ha)

end Meets

theorem Yields.only {P : Call → Prop} {p : Plan α} {t : List Exchange} {r : α} (h : p.Yields t r)
    (hp : p.Only P) : ∀ e ∈ t, P e.call := by
  induction h with
  | done a => exact fun e he => absurd he List.not_mem_nil
  | call a _ ih =>
      intro e he
      rcases List.mem_cons.mp he with rfl | he
      · exact hp.1
      · exact ih (hp.2 a) e he

theorem nonempty_answer (c : Call) : Nonempty c.Answer := by
  cases c with
  | publish _ => exact ⟨()⟩
  | createService _ | createDeployment _ | updateDeployment _ | getSecret _ _ | patchStatus _ _ _ =>
      exact ⟨Except.error .unreachable⟩

theorem exists_yields (p : Plan α) : ∃ t r, p.Yields t r := by
  induction p with
  | done a => exact ⟨[], a, .done a⟩
  | call c next ih =>
      obtain ⟨a⟩ := nonempty_answer c
      obtain ⟨t, r, h⟩ := ih a
      exact ⟨_, r, .call a h⟩

theorem only_of_yields {P : Call → Prop} {p : Plan α}
    (h : ∀ t r, p.Yields t r → ∀ e ∈ t, P e.call) : p.Only P := by
  induction p with
  | done a => trivial
  | call c next ih =>
      constructor
      · obtain ⟨t, r, hyields⟩ := exists_yields (.call c next)
        obtain ⟨a, t', rfl, -⟩ := yields_call_iff.mp hyields
        exact h _ r hyields _ List.mem_cons_self
      · intro a
        exact ih a fun t r hyields e he => h _ r (.call a hyields) e (List.mem_cons_of_mem _ he)

theorem yields_run {σ : Type} (answer : (c : Call) → σ → c.Answer × σ) (p : Plan α) (s : σ) :
    ∃ t, p.Yields t (p.run answer s).1 := by
  induction p generalizing s with
  | done a => exact ⟨[], .done a⟩
  | call c next ih =>
      obtain ⟨t, h⟩ := ih (answer c s).1 (answer c s).2
      exact ⟨_, .call _ h⟩

end Plan

end FaasOperator
