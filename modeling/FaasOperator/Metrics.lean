/-
# `FaasOperator.Metrics` — families of numbers told apart by one label

A member of a family exists once it was touched, be it with zero.
-/
import FaasOperator.StringMap

namespace FaasOperator

/-- The members of a family by the value of their label. -/
abbrev MetricFamily := StringMap Nat

namespace MetricFamily

/-- The number under a label; one that was never touched is zero. -/
def value (f : MetricFamily) (label : String) : Nat := (f.get? label).getD 0

/-- Adds to the number under a label. -/
def incBy (f : MetricFamily) (label : String) (n : Nat) : MetricFamily :=
  f.insert label (f.value label + n)

def inc (f : MetricFamily) (label : String) : MetricFamily := f.incBy label 1

def set (f : MetricFamily) (label : String) (n : Nat) : MetricFamily := f.insert label n

def total (f : MetricFamily) : Nat := f.values.foldl (· + ·) 0

/-- The samples of the family, named with their label. -/
def samples (f : MetricFamily) (name label : String) : List (String × Nat) :=
  f.entries.map fun (value, n) => (name ++ "\x7b" ++ label ++ "=\"" ++ value ++ "\"\x7d", n)

end MetricFamily

/-- The samples that are new or have another value than before. -/
def changedSamples (before after : List (String × Nat)) : List (String × Nat) :=
  after.filter fun s => before.lookup s.1 != some s.2

end FaasOperator
