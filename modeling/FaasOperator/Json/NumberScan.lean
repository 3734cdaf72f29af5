/-
# `FaasOperator.Json.NumberScan` — a number, read character by character

A number that breaks off is told apart by the reader: one that wants it meets the end of the text,
one that skips it meets a malformed number.
-/
import FaasOperator.Json.Document

namespace FaasOperator.Json

/-- The part of a number that was read last. -/
inductive NumberPhase where
  | sign
  | zero
  | whole
  | point
  | fraction
  | exponentMark
  | exponentSign
  | exponent
deriving DecidableEq, Repr

/-- A number read in part; the digits of each part are last first. -/
structure NumberScan where
  phase : NumberPhase
  negative : Bool
  whole : List Char
  fraction : Option (List Char)
  exponent : Option (List Char)
deriving Repr

/-- What a character does to a number: it belongs to it, it comes after it, or it breaks it. -/
inductive NumberScan.Step where
  | more (n : NumberScan)
  | ended (n : Numeral)
  | bad

namespace NumberScan

/-- The number that starts with this character, if one does. -/
def start? (c : Char) : Option NumberScan :=
  if c = '-' then some ⟨.sign, true, [], none, none⟩
  else if c = '0' then some ⟨.zero, false, ['0'], none, none⟩
  else if c.isDigit then some ⟨.whole, false, [c], none, none⟩
  else none

/-- The numeral read so far. -/
def numeral (n : NumberScan) : Numeral :=
  ⟨n.negative, n.whole.reverse, n.fraction.map List.reverse, n.exponent.map List.reverse⟩

/-- The number can end here. -/
def isComplete (n : NumberScan) : Bool :=
  match n.phase with
  | .zero | .whole | .fraction | .exponent => true
  | .sign | .point | .exponentMark | .exponentSign => false

/-- A point or an exponent may follow the whole digits; anything else ends the number. -/
def afterWhole (n : NumberScan) (c : Char) : Step :=
  if c = '.' then .more { n with phase := .point, fraction := some [] }
  else if c = 'e' ∨ c = 'E' then .more { n with phase := .exponentMark, exponent := some [] }
  else .ended n.numeral

def pushFraction (n : NumberScan) (c : Char) : NumberScan :=
  { n with phase := .fraction, fraction := some (c :: n.fraction.getD []) }

def pushExponent (n : NumberScan) (c : Char) : NumberScan :=
  { n with phase := .exponent, exponent := some (c :: n.exponent.getD []) }

/-- The effect of one character.  No digit may follow a leading zero, and a digit must follow a
sign, a point and an exponent mark. -/
def step (n : NumberScan) (c : Char) : Step :=
  match n.phase with
  | .sign =>
      if c = '0' then .more { n with phase := .zero, whole := ['0'] }
      else if c.isDigit then .more { n with phase := .whole, whole := [c] }
      else .bad
  | .zero => if c.isDigit then .bad else n.afterWhole c
  | .whole => if c.isDigit then .more { n with whole := c :: n.whole } else n.afterWhole c
  | .point => if c.isDigit then .more (n.pushFraction c) else .bad
  | .fraction =>
      if c.isDigit then .more (n.pushFraction c)
      else if c = 'e' ∨ c = 'E' then .more { n with phase := .exponentMark, exponent := some [] }
      else .ended n.numeral
  | .exponentMark =>
      if c = '+' ∨ c = '-' then .more { n.pushExponent c with phase := .exponentSign }
      else if c.isDigit then .more (n.pushExponent c)
      else .bad
  | .exponentSign => if c.isDigit then .more (n.pushExponent c) else .bad
  | .exponent => if c.isDigit then .more (n.pushExponent c) else .ended n.numeral

end NumberScan

end FaasOperator.Json
