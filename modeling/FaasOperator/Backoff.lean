/-
# `FaasOperator.Backoff` — exponential backoff

The n-th consecutive failure is retried after `base` times 2^n, capped at `max`.  The factor is a
32-bit number; where it does not fit, or where the product is too long for a duration, the maximum
is the delay.
-/
import FaasOperator.Duration

namespace FaasOperator

/-- The shortest delay and the longest one. -/
structure Backoff where
  base : Duration
  max : Duration
deriving DecidableEq

namespace Backoff

/-- Five milliseconds, doubling up to a thousand seconds. -/
def default : Backoff := ⟨.ofMillis 5, .ofSecs 1000⟩

/-- Two to the power of `n` as an unsigned 32-bit number, if it fits. -/
def factor? (n : Nat) : Option Nat := if n < 32 then some (Nat.pow 2 n) else none

/-- The delay before the retry that follows `failures` earlier ones. -/
def delay (b : Backoff) (failures : Nat) : Duration :=
  match (factor? failures).bind b.base.mul? with
  | some d => min d b.max
  | none => b.max

end Backoff

end FaasOperator
