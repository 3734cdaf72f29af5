/-
# `FaasOperator.Text` — cutting, trimming and the numbers that people type

Texts are lists of characters here, so that laws about them are inductions over the list.  A text is
taken apart at a separator character, at its first occurrence (`cut?`) or at every one (`pieces`),
and freed of the white space at its ends (`trim`), which is white space in the sense of the Unicode
property White_Space.  Numbers come in two forms: unsigned ones of 64 bits with an optional plus
sign (`unsigned?`), and decimals, perhaps with a point and a power of ten (`isScientific`).
-/
namespace FaasOperator.Text

/-! ## Separators -/

/-- The parts before and after the first occurrence of the separator, if there is one. -/
def cut? (sep : Char) : List Char → Option (List Char × List Char)
  | [] => none
  | c :: cs =>
      if c = sep then some ([], cs)
      else (cut? sep cs).map fun (before, after) => (c :: before, after)

/-- The pieces between the occurrences of the separator, in order; there is always at least one. -/
def pieces (sep : Char) : List Char → List (List Char)
  | [] => [[]]
  | c :: cs =>
      if c = sep then [] :: pieces sep cs
      else
        match pieces sep cs with
        | [] => [[c]]
        | p :: ps => (c :: p) :: ps

/-! ## White space -/

/-- Ranges of code points with the property White_Space. -/
def blankRanges : List (Nat × Nat) :=
  [(0x09, 0x0d), (0x20, 0x20), (0x85, 0x85), (0xa0, 0xa0), (0x1680, 0x1680), (0x2000, 0x200a),
  (0x2028, 0x2029), (0x202f, 0x202f), (0x205f, 0x205f), (0x3000, 0x3000)]

def isBlank (c : Char) : Bool :=
  blankRanges.any fun r => r.1 ≤ c.toNat && c.toNat ≤ r.2

def trimEnd (cs : List Char) : List Char :=
  (cs.reverse.dropWhile isBlank).reverse

def trim (cs : List Char) : List Char :=
  trimEnd (cs.dropWhile isBlank)

/-! ## Unsigned numbers -/

def digits? (cs : List Char) : Option Nat :=
  if cs.isEmpty || !cs.all Char.isDigit then none else some (Nat.ofDigitChars 10 cs 0)

/-- The text without one leading plus sign. -/
def dropPlus : List Char → List Char
  | '+' :: cs => cs
  | cs => cs

/-- The number that a text writes, if it fits into 64 bits. -/
def unsigned? (s : String) : Option UInt64 :=
  (digits? (dropPlus s.toList)).bind fun n =>
    if h : n < UInt64.size then some (UInt64.ofNatLT n h) else none

/-! ## Decimals -/

/-- Digits, or none. -/
def isDigits (cs : List Char) : Bool := cs.all Char.isDigit

/-- Digits with at most one point among them or at either end; there is at least one digit. -/
def isDecimal (cs : List Char) : Bool :=
  match cs.dropWhile Char.isDigit with
  | [] => !cs.isEmpty
  | '.' :: fraction => isDigits fraction && cs != ['.']
  | _ => false

/-- The text without one leading sign. -/
def dropSign : List Char → List Char
  | '+' :: cs | '-' :: cs => cs
  | cs => cs

/-- The power of ten behind a decimal, if one is written: a mark, perhaps a sign, and digits. -/
def isExponent : List Char → Bool
  | [] => true
  | 'e' :: cs | 'E' :: cs => !(dropSign cs).isEmpty && isDigits (dropSign cs)
  | _ => false

/-- A decimal, perhaps with a power of ten. -/
def isScientific (cs : List Char) : Bool :=
  let isMantissa := fun c : Char => c.isDigit || c == '.'
  isDecimal (cs.takeWhile isMantissa) && isExponent (cs.dropWhile isMantissa)

end FaasOperator.Text
