/-
# `FaasOperator.Duration` — lengths of time

Whole nanoseconds below 2^64 seconds, the longest that the command line, the backoff and the clock
can name.  The bound is part of the type, so that a product that exceeds it is no duration (`mul?`).
-/
namespace FaasOperator

def nanosPerSecond : Nat := 1000000000

def nanosPerMilli : Nat := 1000000

/-- The first number of nanoseconds that is too long for a duration. -/
def durationLimit : Nat := UInt64.size * nanosPerSecond

structure Duration where
  nanos : Nat
  nanos_lt : nanos < durationLimit
deriving DecidableEq

namespace Duration

/-- The duration of that many nanoseconds, unless it is too long. -/
def ofNanos? (n : Nat) : Option Duration :=
  if h : n < durationLimit then some ⟨n, h⟩ else none

def zero : Duration := ⟨0, by decide⟩

def ofSecs (s : UInt64) : Duration :=
  ⟨s.toNat * nanosPerSecond, Nat.mul_lt_mul_of_pos_right s.toNat_lt_size (by decide)⟩

def ofMillis (ms : UInt64) : Duration :=
  ⟨ms.toNat * nanosPerMilli,
    Nat.lt_of_lt_of_le (Nat.mul_lt_mul_of_pos_right ms.toNat_lt_size (by decide)) (by decide)⟩

/-- The whole seconds of the duration. -/
def secs (d : Duration) : Nat := d.nanos / nanosPerSecond

/-- What remains beside the whole seconds, in nanoseconds. -/
def subsecNanos (d : Duration) : Nat := d.nanos % nanosPerSecond

/-- No time at all passes. -/
def isZero (d : Duration) : Bool := d.nanos == 0

/-- The shorter of two durations. -/
instance : Min Duration := ⟨fun a b => if a.nanos ≤ b.nanos then a else b⟩

/-- `k` times as long, unless that is too long. -/
def mul? (d : Duration) (k : Nat) : Option Duration := ofNanos? (d.nanos * k)

@[simp] theorem nanos_min (a b : Duration) : (min a b).nanos = min a.nanos b.nanos := by
  change (if a.nanos ≤ b.nanos then a else b).nanos = _
  split <;> omega

end Duration

end FaasOperator
