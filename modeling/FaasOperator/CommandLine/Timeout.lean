/-
# `FaasOperator.CommandLine.Timeout` — how long to wait for the API server

A timeout is a number of terms, one behind the other, such as `1m30s`: each is a number and its
unit.  Only whether a text is one is of interest here, and the text is kept as it is.
-/
import FaasOperator.Text

namespace FaasOperator

/-- The text of a well-formed timeout. -/
structure Timeout where
  text : String
deriving DecidableEq, Repr

namespace Timeout

/-- The units, from nanoseconds to hours; for microseconds there are three spellings. -/
def units : List String := ["ns", "us", "\u00b5s", "\u03bcs", "ms", "s", "m", "h"]

def isNumberChar (c : Char) : Bool := c.isDigit || c == '.' || c == '+' || c == '-'

/-- What follows a number and its unit, if those come first. -/
def afterTerm? (cs : List Char) : Option (List Char) :=
  let number := cs.takeWhile isNumberChar
  let rest := cs.dropWhile isNumberChar
  let unit := rest.takeWhile fun c => !isNumberChar c
  if Text.isDecimal (Text.dropSign number) && units.contains (String.ofList unit) then
    some (rest.dropWhile fun c => !isNumberChar c)
  else none

/-- At most so many numbers with their units.  A zero at the end needs none. -/
def isTerms : Nat → List Char → Bool
  | _, [] => true
  | _, ['0'] => true
  | 0, _ => false
  | n + 1, cs =>
      match afterTerm? cs with
      | some rest => isTerms n rest
      | none => false

/-- Reads a timeout; plus signs and then minus signs in front of it say nothing. -/
def parse? (s : String) : Option Timeout :=
  let cs := (s.toList.dropWhile (· == '+')).dropWhile (· == '-')
  if isTerms cs.length cs then some ⟨s⟩ else none

end Timeout

end FaasOperator
