/-
# `FaasOperator.Proofs.Workload.Difference` — the comparison of declarations, field by field

## What is proved

For all declarations `a`, `b` and `c` (`changedFields_equivalence`):

    changedFields a a = []
    changedFields a b = changedFields b a
    a field that differs between a and c differs between a and b, or between b and c

And saying the same in other words, on either side and any number of times, leaves the fields that
differ as they are.  `Reworded` lists the ways: something empty for something absent, Secrets in
another order or repeated, constraints that are no terms, and neighbouring terms of different keys
in the other order.

## How

Each field is compared by what it says to the workload, and that is an equivalence of declarations
(`Comparison`).
-/
import Mathlib.Logic.Relation
import FaasOperator.Proofs.Workload.Change
import FaasOperator.Proofs.Workload.NodeSelector

namespace FaasOperator

/-! ## Comparing -/

/-- A field by which declarations are compared. -/
structure Comparison where
  field : String
  same : FunctionSpec → FunctionSpec → Bool
  equivalence : Equivalence fun a b => same a b = true

namespace Comparison

def on {α : Type} [BEq α] [LawfulBEq α] (field : String) (view : FunctionSpec → α) :
    Comparison where
  field := field
  same a b := view a == view b
  equivalence := by
    simp only [beq_iff_eq]
    exact ⟨fun _ => rfl, Eq.symm, Eq.trans⟩

variable (c : Comparison) (s t u : FunctionSpec)

theorem same_comm : c.same s t = c.same t s :=
  Bool.eq_iff_iff.mpr ⟨c.equivalence.symm, c.equivalence.symm⟩

theorem same_congr {c : Comparison} {s s' t t' : FunctionSpec} (hs : c.same s s' = true)
    (ht : c.same t t' = true) : c.same s t = c.same s' t' := by
  refine Bool.eq_iff_iff.mpr ⟨fun h => ?_, fun h => ?_⟩
  · exact c.equivalence.trans (c.equivalence.symm hs) (c.equivalence.trans h ht)
  · exact c.equivalence.trans hs (c.equivalence.trans h (c.equivalence.symm ht))

/-- A difference between two declarations is one of them from any third. -/
theorem differs_or {c : Comparison} {s t u : FunctionSpec} (h : c.same s u = false) :
    c.same s t = false ∨ c.same t u = false := by
  by_contra hboth
  rw [not_or, Bool.not_eq_false, Bool.not_eq_false] at hboth
  rw [c.equivalence.trans hboth.1 hboth.2] at h
  cases h

end Comparison

def comparisons : List Comparison := [
  .on "name" (·.name),
  .on "image" (·.image),
  .on "replicas" (·.replicas),
  .on "handler" (·.handler),
  .on "annotations" fun s => nonEmptyMap? s.annotations,
  .on "labels" fun s => nonEmptyMap? s.labels,
  .on "environment" fun s => nonEmptyMap? s.environment,
  .on "constraints" fun s => nodeSelector (s.constraints.getD []),
  .on "secrets" fun s => textSet s.secrets,
  .on "limits" fun s => statedResources s.limits,
  .on "requests" fun s => statedResources s.requests,
  .on "readOnlyRootFilesystem" (·.readOnlyRootFilesystem)]

variable {a b c a' b' : FunctionSpec}

theorem fieldTests_eq (a b : FunctionSpec) :
    fieldTests a b = comparisons.map fun c => (c.field, c.same a b) := rfl

theorem mem_changedFields_iff {field : String} :
    field ∈ changedFields a b ↔ ∃ c ∈ comparisons, c.same a b = false ∧ c.field = field := by
  rw [changedFields, fieldTests_eq]
  simp [and_assoc]

theorem changedFields_comm (a b : FunctionSpec) : changedFields a b = changedFields b a := by
  simp only [changedFields, fieldTests_eq, Comparison.same_comm _ a b]

theorem same_of_unchanged (h : changedFields a b = []) {c : Comparison} (hc : c ∈ comparisons) :
    c.same a b = true := by
  rw [changedFields_eq_nil_iff_tests, fieldTests_eq] at h
  exact h _ (List.mem_map.mpr ⟨c, hc, rfl⟩)

theorem changedFields_congr (ha : changedFields a a' = []) (hb : changedFields b b' = []) :
    changedFields a b = changedFields a' b' := by
  have htests : fieldTests a b = fieldTests a' b' := by
    rw [fieldTests_eq, fieldTests_eq]
    refine List.map_congr_left fun c hc => ?_
    rw [Comparison.same_congr (same_of_unchanged ha hc) (same_of_unchanged hb hc)]
  rw [changedFields, changedFields, htests]

theorem unchanged_equivalence : Equivalence fun a b => changedFields a b = [] where
  refl := changedFields_self
  symm h := changedFields_comm _ _ ▸ h
  trans hab hbc := (changedFields_congr hab (changedFields_self _)).trans hbc

/-! ## Saying the same in other words -/

/-- An amount where there was none, which says nothing. -/
inductive FunctionResources.Reworded : FunctionResources → FunctionResources → Prop
  | memory (cpu : Option String) : Reworded ⟨none, cpu⟩ ⟨some "", cpu⟩
  | cpu (memory : Option String) : Reworded ⟨memory, none⟩ ⟨memory, some ""⟩

/-- The same names in another order, or with one of them once more. -/
inductive SecretsReworded : List String → List String → Prop
  | permuted {xs ys : List String} : xs.Perm ys → SecretsReworded xs ys
  | repeated {xs ys : List String} {x : String} : x ∈ xs ++ ys →
      SecretsReworded (xs ++ ys) (xs ++ x :: ys)

/-- A constraint more that has not just one equals sign, or two neighbouring terms of different keys
that change places. -/
inductive ConstraintsReworded : List String → List String → Prop
  | inserted {xs ys : List String} {x : String} : x.toList.count '=' ≠ 1 →
      ConstraintsReworded (xs ++ ys) (xs ++ x :: ys)
  | swapped {xs ys : List String} {k v k' v' : String} :
      '=' ∉ k.toList → '=' ∉ v.toList → '=' ∉ k'.toList → '=' ∉ v'.toList → k ≠ k' →
      ConstraintsReworded (xs ++ (k ++ "=" ++ v) :: (k' ++ "=" ++ v') :: ys)
        (xs ++ (k' ++ "=" ++ v') :: (k ++ "=" ++ v) :: ys)

/-- The declaration is the other one but for something empty in place of something absent, or for
Secrets or constraints in other words. -/
inductive FunctionSpec.Reworded (s : FunctionSpec) : FunctionSpec → Prop
  | annotations : s.annotations = none → Reworded s { s with annotations := some ∅ }
  | labels : s.labels = none → Reworded s { s with labels := some ∅ }
  | environment : s.environment = none → Reworded s { s with environment := some ∅ }
  | constraints : s.constraints = none → Reworded s { s with constraints := some [] }
  | secrets : s.secrets = none → Reworded s { s with secrets := some [] }
  | limits : s.limits = none → Reworded s { s with limits := some ⟨none, none⟩ }
  | requests : s.requests = none → Reworded s { s with requests := some ⟨none, none⟩ }
  | limit {r r' : FunctionResources} : s.limits = some r → r.Reworded r' →
      Reworded s { s with limits := some r' }
  | request {r r' : FunctionResources} : s.requests = some r → r.Reworded r' →
      Reworded s { s with requests := some r' }
  | secretNames {xs ys : List String} : s.secrets = some xs → SecretsReworded xs ys →
      Reworded s { s with secrets := some ys }
  | constraintTerms {xs ys : List String} : s.constraints = some xs → ConstraintsReworded xs ys →
      Reworded s { s with constraints := some ys }

theorem FunctionResources.Reworded.stated_eq {r r' : FunctionResources} (h : r.Reworded r') :
    statedResources (some r) = statedResources (some r') := by
  cases h with
  | memory cpu => rfl
  | cpu memory => rfl

theorem SecretsReworded.textSet_eq {xs ys : List String} (h : SecretsReworded xs ys) :
    textSet (some xs) = textSet (some ys) := by
  rw [textSet_eq_iff]
  intro x
  cases h with
  | permuted hperm => exact hperm.mem_iff
  | repeated hmem =>
      simp only [Option.getD_some, List.mem_append, List.mem_cons] at hmem ⊢
      grind

theorem ConstraintsReworded.nodeSelector_eq {xs ys : List String} (h : ConstraintsReworded xs ys) :
    nodeSelector xs = nodeSelector ys := by
  cases h with
  | inserted hcount => exact (nodeSelector_insert hcount _ _).symm
  | swapped hk hv hk' hv' hne =>
      have hterm := nodeSelectorTerm?_eq_some_iff.mpr ⟨hk, hv, rfl⟩
      have hterm' := nodeSelectorTerm?_eq_some_iff.mpr ⟨hk', hv', rfl⟩
      exact nodeSelector_swap hterm hterm' hne _ _

theorem FunctionSpec.Reworded.unchanged (h : a.Reworded b) : changedFields a b = [] := by
  rw [changedFields_eq_nil_iff]
  have hrefl : a.Unchanged a := changedFields_eq_nil_iff.mp (changedFields_self a)
  cases h with
  | annotations h => exact { hrefl with annotations := by rw [h]; rfl }
  | labels h => exact { hrefl with labels := by rw [h]; rfl }
  | environment h => exact { hrefl with environment := by rw [h]; rfl }
  | constraints h => exact { hrefl with constraints := by rw [h]; rfl }
  | secrets h => exact { hrefl with secrets := by rw [h]; rfl }
  | limits h => exact { hrefl with limits := by rw [h]; rfl }
  | requests h => exact { hrefl with requests := by rw [h]; rfl }
  | limit h hr => exact { hrefl with limits := by rw [h]; exact hr.stated_eq }
  | request h hr => exact { hrefl with requests := by rw [h]; exact hr.stated_eq }
  | secretNames h hs => exact { hrefl with secrets := by rw [h]; exact hs.textSet_eq }
  | constraintTerms h hc => exact { hrefl with constraints := by rw [h]; exact hc.nodeSelector_eq }

theorem unchanged_of_eqvGen (h : Relation.EqvGen FunctionSpec.Reworded a b) :
    changedFields a b = [] := by
  rw [← unchanged_equivalence.eqvGen_iff]
  exact h.mono fun _ _ => FunctionSpec.Reworded.unchanged

/-- To be unchanged is an equivalence, field by field: a declaration differs from itself in no
field, two differ in the same fields both ways, and a field that differs between two of them differs
on the way over a third.  Saying the same in other words, however often and on either side, leaves
the fields that differ as they are. -/
theorem changedFields_equivalence (a b c : FunctionSpec) :
    changedFields a a = [] ∧
    changedFields a b = changedFields b a ∧
    (∀ field ∈ changedFields a c, field ∈ changedFields a b ∨ field ∈ changedFields b c) ∧
    ∀ a' b', Relation.EqvGen FunctionSpec.Reworded a a' →
      Relation.EqvGen FunctionSpec.Reworded b b' →
      changedFields a' b' = changedFields a b := by
  refine ⟨changedFields_self a, changedFields_comm a b, fun field hfield => ?_,
    fun a' b' ha hb => ?_⟩
  · obtain ⟨comparison, hmem, hdiffers, hname⟩ := mem_changedFields_iff.mp hfield
    rcases Comparison.differs_or (t := b) hdiffers with h | h
    · exact .inl (mem_changedFields_iff.mpr ⟨comparison, hmem, h, hname⟩)
    · exact .inr (mem_changedFields_iff.mpr ⟨comparison, hmem, h, hname⟩)
  · exact (changedFields_congr (unchanged_of_eqvGen ha) (unchanged_of_eqvGen hb)).symm

def terseSpec : FunctionSpec :=
  { FunctionSpec.empty with
    name := "echo"
    constraints := some ["zone=a", "disk=ssd"]
    secrets := some ["db", "hub"] }

/-- The same with an empty map, a constraint more that is no term, and names and terms in another
order. -/
def wordySpec : FunctionSpec :=
  { terseSpec with
    labels := some ∅
    constraints := some ["disk=ssd", "gpu", "zone=a"]
    secrets := some ["hub", "db"] }

def updatedSpec : FunctionSpec := { terseSpec with image := "functions/echo:2" }

theorem eqvGen_wordySpec : Relation.EqvGen FunctionSpec.Reworded terseSpec wordySpec := by
  let labelled : FunctionSpec := { terseSpec with labels := some ∅ }
  let swapped : FunctionSpec := { labelled with constraints := some ["disk=ssd", "zone=a"] }
  let constrained : FunctionSpec :=
    { labelled with constraints := some ["disk=ssd", "gpu", "zone=a"] }
  have hlabelled : terseSpec.Reworded labelled := .labels rfl
  have hswapped : labelled.Reworded swapped :=
    .constraintTerms rfl (@ConstraintsReworded.swapped [] [] "zone" "a" "disk" "ssd"
      (by decide) (by decide) (by decide) (by decide) (by decide))
  have hconstrained : swapped.Reworded constrained :=
    .constraintTerms rfl (@ConstraintsReworded.inserted ["disk=ssd"] ["zone=a"] "gpu" (by decide))
  have hwordy : constrained.Reworded wordySpec :=
    .secretNames rfl (.permuted (.swap "hub" "db" []))
  exact .trans _ _ _ (.rel _ _ hlabelled) (.trans _ _ _ (.rel _ _ hswapped)
    (.trans _ _ _ (.rel _ _ hconstrained) (.rel _ _ hwordy)))

theorem changedFields_equivalence_wordy :
    "image" ∈ changedFields terseSpec updatedSpec ∧
    ("image" ∈ changedFields terseSpec wordySpec ∨ "image" ∈ changedFields wordySpec updatedSpec) ∧
    Relation.EqvGen FunctionSpec.Reworded terseSpec wordySpec ∧
    Relation.EqvGen FunctionSpec.Reworded updatedSpec updatedSpec ∧
    changedFields wordySpec updatedSpec = changedFields terseSpec updatedSpec := by
  have himage : "image" ∈ changedFields terseSpec updatedSpec := by decide
  obtain ⟨-, -, hthird, -⟩ := changedFields_equivalence terseSpec wordySpec updatedSpec
  obtain ⟨-, -, -, hreworded⟩ := changedFields_equivalence terseSpec updatedSpec updatedSpec
  have hupdated := Relation.EqvGen.refl (r := FunctionSpec.Reworded) updatedSpec
  exact ⟨himage, hthird "image" himage, eqvGen_wordySpec, hupdated,
    hreworded wordySpec updatedSpec eqvGen_wordySpec hupdated⟩

end FaasOperator
