/-
# `FaasOperator.Proofs.Json.Numeral` — numerals and their digits

The digits of a natural number have no leading zero, an integer of at most 64 bits is never too
large, and the scan behind a numeral (`ofNumeral`) holds this numeral once something else follows.
-/
import FaasOperator.Json.NumberScan
import FaasOperator.Proofs.Json.Layout

namespace FaasOperator.Numeral

theorem digitChar_ne_zero : ∀ n < 10, n ≠ 0 → Nat.digitChar n ≠ '0' := by decide

theorem isWhole_toDigits (n : Nat) : IsWhole (Nat.toDigits 10 n) := by
  by_cases h0 : n = 0
  · exact .inl (by rw [h0, Nat.toDigits_zero])
  · refine .inr ?_
    have hdigits : ∀ c ∈ Nat.toDigits 10 n, c.isDigit = true := fun c hc =>
      Nat.isDigit_of_mem_toDigits (by decide) (by decide) hc
    induction n using Nat.strongRecOn with
    | ind n ih =>
      rw [Nat.toDigits_eq_if (by decide)] at hdigits ⊢
      split
      · rename_i hlt
        rw [if_pos hlt] at hdigits
        exact ⟨_, [], rfl, digitChar_ne_zero n hlt h0, hdigits⟩
      · rename_i hge
        rw [if_neg hge] at hdigits
        have hdiv : n / 10 ≠ 0 := by omega
        obtain ⟨d, rest, heq, hd, -⟩ := ih (n / 10) (by omega) hdiv
          fun c hc => hdigits c (List.mem_append_left _ hc)
        exact ⟨d, rest ++ [(n % 10).digitChar], by rw [heq]; rfl, hd, hdigits⟩

theorem wellFormed_ofInt (i : Int) : (ofInt i).WellFormed where
  whole := isWhole_toDigits i.natAbs
  fraction := fun _ h => nomatch h
  exponent := fun _ h => nomatch h

/-! ## Size -/

theorem wholeSignificand_of_le {cs : List Char} {s : Nat}
    (h : Nat.ofDigitChars 10 cs s ≤ significandLimit) :
    wholeSignificand cs s 0 = (Nat.ofDigitChars 10 cs s, 0) := by
  induction cs generalizing s with
  | nil => rfl
  | cons c cs ih =>
      rw [Nat.ofDigitChars_cons] at h ⊢
      have hstep : s * 10 + digitValue c = 10 * s + (c.toNat - '0'.toNat) := by
        rw [digitValue, Nat.mul_comm]
      have hle : s * 10 + digitValue c ≤ significandLimit := by
        rw [hstep]
        refine Nat.le_trans ?_ h
        rw [Nat.ofDigitChars_eq_ofDigitChars_zero]
        have hpos : 0 < 10 ^ cs.length := Nat.pow_pos (by decide)
        have := Nat.le_mul_of_pos_left (10 * s + (c.toNat - '0'.toNat)) hpos
        omega
      rw [wholeSignificand, if_pos ⟨rfl, hle⟩, hstep]
      exact ih h

theorem isTooLarge_ofInt {i : Int} (h : i.natAbs ≤ significandLimit) :
    (ofInt i).isTooLarge = false := by
  have hval : Nat.ofDigitChars 10 (Nat.toDigits 10 i.natAbs) 0 = i.natAbs :=
    Nat.ofDigitChars_toDigits (by decide) (by decide)
  have hle : Nat.ofDigitChars 10 (Nat.toDigits 10 i.natAbs) 0 ≤ significandLimit := by
    rw [hval]
    exact h
  have hkept := wholeSignificand_of_le hle
  simp only [isTooLarge, ofInt, hkept, Option.isNone_none, Bool.true_and, beq_self_eq_true, if_true]

end FaasOperator.Numeral

namespace FaasOperator.Json.NumberScan

open Numeral

/-- The part that a numeral ends with. -/
def lastPhase (n : Numeral) : NumberPhase :=
  if n.exponent.isSome then .exponent
  else if n.fraction.isSome then .fraction
  else if n.whole = ['0'] then .zero
  else .whole

/-- The scan behind a numeral. -/
def ofNumeral (n : Numeral) : NumberScan :=
  ⟨lastPhase n, n.negative, n.whole.reverse, n.fraction.map List.reverse,
    n.exponent.map List.reverse⟩

/-- The character can only come after a number. -/
def EndsNumber (c : Char) : Prop := c.isDigit = false ∧ c ≠ '.' ∧ c ≠ 'e' ∧ c ≠ 'E'

theorem numeral_ofNumeral (n : Numeral) : (ofNumeral n).numeral = n := by
  obtain ⟨negative, whole, fraction, exponent⟩ := n
  cases fraction <;> cases exponent <;> simp [ofNumeral, numeral]

theorem isComplete_ofNumeral (n : Numeral) : (ofNumeral n).isComplete = true := by
  have hphase : (ofNumeral n).phase = lastPhase n := rfl
  unfold isComplete
  rw [hphase, lastPhase]
  by_cases he : n.exponent.isSome
  · rw [if_pos he]
  · rw [if_neg he]
    by_cases hf : n.fraction.isSome
    · rw [if_pos hf]
    · rw [if_neg hf]
      by_cases h0 : n.whole = ['0']
      · rw [if_pos h0]
      · rw [if_neg h0]

theorem step_of_isComplete {n : NumberScan} (hn : n.isComplete = true) {c : Char}
    (hc : EndsNumber c) : n.step c = .ended n.numeral := by
  obtain ⟨hd, hp, he, hE⟩ := hc
  unfold isComplete at hn
  cases hphase : n.phase with
  | zero | whole => simp [step, hphase, hd, afterWhole, hp, he, hE]
  | fraction => simp [step, hphase, hd, he, hE]
  | exponent => simp [step, hphase, hd]
  | sign | point | exponentMark | exponentSign => rw [hphase] at hn; cases hn

theorem step_ofNumeral {c : Char} (hc : EndsNumber c) (n : Numeral) :
    (ofNumeral n).step c = .ended n := by
  rw [step_of_isComplete (isComplete_ofNumeral n) hc, numeral_ofNumeral]

end FaasOperator.Json.NumberScan
