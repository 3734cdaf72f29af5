/-
# `FaasOperator.Yaml.Double` — numbers with a point or an exponent

Such a number is known to double precision only, and is told with the fewest digits that stand for
the same double.  Rounding is exact: a value is a quotient of natural numbers, and a double is a
significand of at most 53 bits times a power of two.
-/
import FaasOperator.Text

namespace FaasOperator.Yaml

/-- A significand times a power of two. -/
structure Binary where
  significand : Nat
  exponent : Int
deriving DecidableEq, Repr

/-- Digits times a power of ten. -/
structure Decimal where
  digits : Nat
  exponent : Int
deriving DecidableEq, Repr

namespace Binary

/-- The smallest significand of full precision. -/
def fullPrecision : Nat := Nat.pow 2 52

def leastExponent : Int := -1074

/-- The greatest exponent of a finite double. -/
def greatestExponent : Int := 971

/-- The power of a base to an exponent, as numerator and denominator. -/
def power (base : Nat) (e : Int) : Nat × Nat := (Nat.pow base e.toNat, Nat.pow base (-e).toNat)

/-- The nearest natural number to a quotient; of two, the even one. -/
def roundQuotient (num den : Nat) : Nat :=
  let q := num / den
  let r := num % den
  if den < 2 * r ∨ (2 * r = den ∧ q % 2 = 1) then q + 1 else q

/-- The double that is nearest to a quotient; it may be too large to be finite. -/
def ofRatio (num den : Nat) : Binary :=
  let scaled := fun e : Int => let (up, down) := power 2 e; (num * down, den * up)
  let guess : Int := (num.log2 : Int) - den.log2 - 52
  let (n, d) := scaled guess
  let e := max (if n < fullPrecision * d then guess - 1 else guess) leastExponent
  let (n, d) := scaled e
  let s := roundQuotient n d
  if s = 2 * fullPrecision then ⟨fullPrecision, e + 1⟩ else ⟨s, e⟩

def isFinite (b : Binary) : Bool := b.exponent ≤ greatestExponent

/-- A number of this power of ten that stands for the double, if there is one.  In quarters of the
last binary place, the double is at four times its significand, and what is up to two quarters away
stands for it; below a power of two it is one quarter. -/
def decimalAt? (b : Binary) (e : Int) : Option Decimal :=
  let (up, down) := power 2 (b.exponent - 2)
  let (up', down') := power 10 e
  let num := up * down'
  let den := down * up'
  let value := 4 * b.significand
  let below := if b.significand = fullPrecision ∧ leastExponent < b.exponent then 1 else 2
  let low := (value - below) * num
  let high := (value + 2) * num
  let stands := fun t : Nat =>
    if b.significand % 2 = 0 then low ≤ t * den && t * den ≤ high
    else low < t * den && t * den < high
  let t := value * num / den
  let nearer := if 2 * (value * num) ≤ (2 * t + 1) * den then [t, t + 1] else [t + 1, t]
  (nearer.find? stands).map (⟨·, e⟩)

/-- The shortest number that stands for the double. -/
def shortest (b : Binary) : Decimal :=
  if b.significand = 0 then ⟨0, 0⟩
  else
    let highest : Int := ((b.significand.log2 : Int) + b.exponent) * 30103 / 100000 + 2
    ((List.range 40).findSome? fun i : Nat => b.decimalAt? (highest - (i : Int))).getD ⟨0, 0⟩

end Binary

namespace Decimal

/-- The number in digits, with a point and at least one digit on either side of it. -/
def text (d : Decimal) : String :=
  let ds := Nat.toDigits 10 d.digits
  if 0 ≤ d.exponent then String.ofList (ds ++ List.replicate d.exponent.toNat '0' ++ ['.', '0'])
  else
    let places := (-d.exponent).toNat
    let padded := List.replicate (places + 1 - ds.length) '0' ++ ds
    let point := padded.length - places
    String.ofList (padded.take point ++ '.' :: padded.drop point)

end Decimal

inductive Double where
  | finite (negative : Bool) (magnitude : Decimal)
  | infinite (negative : Bool)
  | notANumber
deriving DecidableEq, Repr

namespace Double

def text : Double → String
  | .finite negative d => (if negative then "-" else "") ++ d.text
  | .infinite negative => if negative then "-inf" else "inf"
  | .notANumber => "NaN"

/-- An exponent beyond which no double is different from zero and finite. -/
def exponentLimit : Int := 400

/-- The finite double nearest to digits times a power of ten, told shortly. -/
def ofDecimal? (negative : Bool) (digits : Nat) (length : Nat) (e : Int) : Option Double :=
  if digits = 0 ∨ e + length < -exponentLimit then some (.finite negative ⟨0, 0⟩)
  else if exponentLimit < e + length then none
  else
    let (up, down) := Binary.power 10 e
    let b := Binary.ofRatio (digits * up) down
    if b.isFinite then some (.finite negative b.shortest) else none

/-- The exponent that is written behind a mark. -/
def exponentOf : List Char → Int
  | [] | [_] => 0
  | _ :: '-' :: ds => -(Nat.ofDigitChars 10 ds 0 : Int)
  | _ :: ds => Nat.ofDigitChars 10 (Text.dropSign ds) 0

/-- Reads digits, perhaps with a point among them, perhaps with an exponent. -/
def ofScientific? (negative : Bool) (cs : List Char) : Option Double :=
  if Text.isScientific cs then
    let isMantissa := fun c : Char => c.isDigit || c == '.'
    let mantissa := cs.takeWhile isMantissa
    let digits := mantissa.filter (· != '.')
    let places := (mantissa.dropWhile (· != '.')).length - 1
    ofDecimal? negative (Nat.ofDigitChars 10 digits 0) digits.length
      (exponentOf (cs.dropWhile isMantissa) - places)
  else none

/-- Reads a number with an optional sign, or one of the names of what is no finite number. -/
def parse? (s : String) : Option Double :=
  match s with
  | ".inf" | ".Inf" | ".INF" | "+.inf" | "+.Inf" | "+.INF" => some (.infinite false)
  | "-.inf" | "-.Inf" | "-.INF" => some (.infinite true)
  | ".nan" | ".NaN" | ".NAN" => some .notANumber
  | s =>
      match s.toList with
      | '-' :: cs => ofScientific? true cs
      | '+' :: cs => ofScientific? false cs
      | cs => ofScientific? false cs

end Double

end FaasOperator.Yaml
