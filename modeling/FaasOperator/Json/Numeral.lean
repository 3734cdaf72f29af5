/-
# `FaasOperator.Json.Numeral` — number texts

A numeral keeps its digits as written; whether it is an integer, and whether it is too large for a
double, are questions asked of it afterwards (`toInt?`, `isTooLarge`).  The second one is answered
the way a fast reader of doubles does, with a significand of 64 bits that takes no more digits once
it is full, and a power of ten.
-/
namespace FaasOperator

/-- A number as written: sign, whole digits, digits after the point, and the exponent's sign and
digits. -/
structure Numeral where
  negative : Bool
  whole : List Char
  fraction : Option (List Char)
  exponent : Option (List Char)
deriving DecidableEq, Repr, Inhabited

namespace Numeral

/-- The shortest numeral of an integer. -/
def ofInt (i : Int) : Numeral := ⟨decide (i < 0), Nat.toDigits 10 i.natAbs, none, none⟩

def render (n : Numeral) : List Char :=
  (if n.negative then ['-'] else []) ++ n.whole ++
    (match n.fraction with | none => [] | some ds => '.' :: ds) ++
    (match n.exponent with | none => [] | some ds => 'e' :: ds)

/-- The integer that the numeral writes.  A point, an exponent and a negative zero make it no
integer. -/
def toInt? (n : Numeral) : Option Int :=
  if n.fraction.isSome || n.exponent.isSome || (n.negative && n.whole == ['0']) then none
  else
    let magnitude := Nat.ofDigitChars 10 n.whole 0
    some (if n.negative then -(magnitude : Int) else (magnitude : Int))

theorem toInt?_ofInt (i : Int) : (ofInt i).toInt? = some i := by
  have hz : ¬(i < 0 ∧ Nat.toDigits 10 i.natAbs = ['0']) := by
    rintro ⟨hneg, hd⟩
    have h := congrArg (fun ds => Nat.ofDigitChars 10 ds 0) hd
    simp only [Nat.ofDigitChars_toDigits (b := 10) (by decide) (by decide)] at h
    have h0 : Nat.ofDigitChars 10 ['0'] 0 = 0 := by decide
    omega
  simp only [toInt?, ofInt, Option.isSome_none, Bool.false_or, Bool.and_eq_true, decide_eq_true_eq,
    beq_iff_eq, hz, if_false, Nat.ofDigitChars_toDigits (b := 10) (by decide) (by decide)]
  split <;> simp only [Option.some.injEq] <;> omega

/-! ## Numbers too large for a double -/

/-- The largest significand that is kept; digits that would take it further are only counted. -/
def significandLimit : Nat := UInt64.size - 1

def digitValue (c : Char) : Nat := c.toNat - '0'.toNat

/-- The significand of the whole digits, and how many of them were left out. -/
def wholeSignificand : List Char → Nat → Nat → Nat × Nat
  | [], s, left => (s, left)
  | c :: cs, s, left =>
      if left = 0 ∧ s * 10 + digitValue c ≤ significandLimit then
        wholeSignificand cs (s * 10 + digitValue c) 0
      else wholeSignificand cs s (left + 1)

/-- Extends the significand by the digits after the point as far as they fit, and lowers the
exponent by one for each digit taken. -/
def fractionSignificand : List Char → Nat → Int → Nat × Int
  | [], s, e => (s, e)
  | c :: cs, s, e =>
      if s * 10 + digitValue c ≤ significandLimit then
        fractionSignificand cs (s * 10 + digitValue c) (e - 1)
      else (s, e)

/-- The nearest natural number with at most 53 significant bits, a tie going to the even one. -/
def roundToDouble (n : Nat) : Nat :=
  let bits := n.log2 + 1
  if bits ≤ 53 then n
  else
    let unit := Nat.pow 2 (bits - 53)
    let q := n / unit
    let r := n % unit
    (if unit < 2 * r ∨ (unit = 2 * r ∧ q % 2 = 1) then q + 1 else q) * unit

/-- The smallest magnitude that rounds to no finite double. -/
def doubleLimit : Nat := Nat.pow 2 1024 - Nat.pow 2 970

/-- The largest power of ten that a double holds. -/
def maxPower : Nat := 308

/-- Significand times a power of ten is no finite double, both factors being rounded first. -/
def scaledTooLarge (s : Nat) (e : Int) : Bool :=
  if s = 0 ∨ e < 0 then false
  else if maxPower < e.toNat then true
  else decide (doubleLimit ≤ roundToDouble s * roundToDouble (Nat.pow 10 e.toNat))

/-- The exponent's value, and whether its sign is not a minus. -/
def exponentParts : List Char → Nat × Bool
  | '-' :: ds => (Nat.ofDigitChars 10 ds 0, false)
  | '+' :: ds => (Nat.ofDigitChars 10 ds 0, true)
  | ds => (Nat.ofDigitChars 10 ds 0, true)

/-- The largest exponent that is taken as it is written. -/
def exponentLimit : Nat := 2147483647

/-- The number is no finite double.  Integers of at most 64 bits are never read as doubles. -/
def isTooLarge (n : Numeral) : Bool :=
  let (s, left) := wholeSignificand n.whole 0 0
  if n.fraction.isNone && n.exponent.isNone && left == 0 then false
  else
    let (s, e) := fractionSignificand (n.fraction.getD []) s left
    match n.exponent with
    | none => scaledTooLarge s e
    | some ds =>
        let (x, up) := exponentParts ds
        if exponentLimit < x then up && s != 0
        else scaledTooLarge s (if up then e + x else e - x)

end Numeral

end FaasOperator
