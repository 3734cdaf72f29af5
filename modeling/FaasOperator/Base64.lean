/-
# `FaasOperator.Base64` — base64 with the standard alphabet

Three bytes are written as four characters, and the last group is filled up with `=`.  Reading is
strict: the length has to be a multiple of four, and the spare bits of the last group have to be
zero, so that exactly the texts are read that writing gives.
-/
namespace FaasOperator.Base64

def sixBitChar (n : Nat) : Char :=
  if n < 26 then Char.ofNat ('A'.toNat + n)
  else if n < 52 then Char.ofNat ('a'.toNat + (n - 26))
  else if n < 62 then Char.ofNat ('0'.toNat + (n - 52))
  else if n = 62 then '+'
  else '/'

def sixBitValue? (c : Char) : Option Nat :=
  if 'A' ≤ c ∧ c ≤ 'Z' then some (c.toNat - 'A'.toNat)
  else if 'a' ≤ c ∧ c ≤ 'z' then some (c.toNat - 'a'.toNat + 26)
  else if '0' ≤ c ∧ c ≤ '9' then some (c.toNat - '0'.toNat + 52)
  else if c = '+' then some 62
  else if c = '/' then some 63
  else none

/-- The text of some bytes. -/
def encode : List UInt8 → List Char
  | [] => []
  | [a] =>
      let n := a.toNat * 16
      [sixBitChar (n / 64), sixBitChar (n % 64), '=', '=']
  | [a, b] =>
      let n := (a.toNat * 256 + b.toNat) * 4
      [sixBitChar (n / 4096), sixBitChar (n / 64 % 64), sixBitChar (n % 64), '=']
  | a :: b :: c :: rest =>
      let n := (a.toNat * 256 + b.toNat) * 256 + c.toNat
      sixBitChar (n / 262144) :: sixBitChar (n / 4096 % 64) :: sixBitChar (n / 64 % 64) ::
        sixBitChar (n % 64) :: encode rest

/-- One byte, of which the last group's spare bits are zero. -/
def lastByte? (a b : Nat) : Option (List UInt8) :=
  if b % 16 = 0 then some [.ofNat (a * 4 + b / 16)] else none

/-- Two bytes, of which the last group's spare bits are zero. -/
def lastBytes? (a b c : Nat) : Option (List UInt8) :=
  if c % 4 = 0 then some [.ofNat (a * 4 + b / 16), .ofNat (b % 16 * 16 + c / 4)] else none

/-- The bytes that a text writes. -/
def decode? : List Char → Option (List UInt8)
  | [] => some []
  | [w, x, '=', '='] => do lastByte? (← sixBitValue? w) (← sixBitValue? x)
  | [w, x, y, '='] => do lastBytes? (← sixBitValue? w) (← sixBitValue? x) (← sixBitValue? y)
  | w :: x :: y :: z :: rest => do
      let a ← sixBitValue? w
      let b ← sixBitValue? x
      let c ← sixBitValue? y
      let d ← sixBitValue? z
      let bytes ← decode? rest
      return .ofNat (a * 4 + b / 16) :: .ofNat (b % 16 * 16 + c / 4) ::
        .ofNat (c % 4 * 64 + d) :: bytes
  | _ => none

end FaasOperator.Base64
