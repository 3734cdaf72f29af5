/-
# `FaasOperator.Quantity` — resource quantities

A signed decimal number with a binary suffix, a decimal suffix or a decimal exponent.  A workload
whose quantities do not read is refused as a whole by the API server, so they are checked before
anything is rendered from them.  The text is kept as it was written, without the white space at its
ends.
-/
import FaasOperator.Text
import FaasOperator.Text.Quoted

namespace FaasOperator

/-- The text of a well-formed quantity. -/
structure Quantity where
  text : String
deriving DecidableEq

/-- Why a text is not a quantity; both causes after the first carry the trimmed text. -/
inductive QuantityError where
  | empty
  | number (text : String)
  | suffix (text : String)
deriving DecidableEq

def QuantityError.message : QuantityError → String
  | .empty => "empty quantity"
  | .number t => "invalid number in quantity " ++ Text.quoted t
  | .suffix t => "invalid suffix in quantity " ++ Text.quoted t

namespace Quantity

/-- Suffixes for powers of 1024. -/
def binarySuffixes : List String := ["Ki", "Mi", "Gi", "Ti", "Pi", "Ei"]

/-- Suffixes for powers of 1000, the empty one among them. -/
def decimalSuffixes : List String := ["n", "u", "m", "", "k", "M", "G", "T", "P", "E"]

def dropSign : List Char → List Char
  | '+' :: cs => cs
  | '-' :: cs => cs
  | cs => cs

/-- A character that can belong to the number in front of the suffix. -/
def isNumberChar (c : Char) : Bool := c.isDigit || c == '.' || c == '+' || c == '-'

/-- An optional sign, then digits with at most one point among them and at least one digit. -/
def isSignedNumber (cs : List Char) : Bool :=
  let unsigned := dropSign cs
  match Text.cut? '.' unsigned with
  | none => !unsigned.isEmpty && unsigned.all Char.isDigit
  | some (whole, fraction) =>
      !(whole.isEmpty && fraction.isEmpty) && whole.all Char.isDigit && fraction.all Char.isDigit

/-- `e` or `E`, an optional sign and at least one digit. -/
def isExponent : List Char → Bool
  | 'e' :: cs | 'E' :: cs => !(dropSign cs).isEmpty && (dropSign cs).all Char.isDigit
  | _ => false

/-- One of the three kinds of suffix. -/
def isSuffix (cs : List Char) : Bool :=
  binarySuffixes.contains (String.ofList cs) || decimalSuffixes.contains (String.ofList cs) ||
    isExponent cs

/-- Reads a quantity.  White space around it is dropped; the number is the longest beginning that
consists of number characters, and the suffix is all the rest. -/
def parse (s : String) : Except QuantityError Quantity :=
  let cs := Text.trim s.toList
  let text := String.ofList cs
  if cs.isEmpty then .error .empty
  else if !isSignedNumber (cs.takeWhile isNumberChar) then .error (.number text)
  else if !isSuffix (cs.dropWhile isNumberChar) then .error (.suffix text)
  else .ok ⟨text⟩

end Quantity

end FaasOperator
