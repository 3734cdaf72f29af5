/-
# `FaasOperator.Proofs.Backoff` — how the delays grow

## What is proved

For every backoff `b`, with all amounts in nanoseconds (`follows_rule_iff`):

    delay n = min (base * 2 ^ n) max          if n < 32
    delay n = max                             otherwise
    delay n = min (base * 2 ^ n) max   iff    n < 32 or max ≤ base * 2 ^ n
    the rule holds for all n           iff    max ≤ base * 2 ^ 32

For fewer than 32 failures nothing is lost: a product that is too long for a duration is longer than
the maximum anyway.  For 32 failures and more the factor does not fit into 32 bits, and the delay is
the maximum whether the product comes up to it or not.  In any case the delays never decrease and
never exceed the maximum (`nanos_delay_mono`, `nanos_delay_le`).

## Where the rule fails

A base of zero does not come up to anything: its retries are immediate 32 times, and wait for the
maximum from then on (`zero_base_waits`).
-/
import Mathlib.Algebra.Group.Nat.Defs
import FaasOperator.Backoff

namespace FaasOperator.Backoff

variable {b : Backoff} {m n : Nat}

/-- The rule: the base times 2^n, capped at the maximum, in nanoseconds. -/
def rule (b : Backoff) (n : Nat) : Nat := min (b.base.nanos * 2 ^ n) b.max.nanos

/-- A product that is too long for a duration is longer than the maximum. -/
theorem nanos_delay_of_lt (h : n < 32) : (b.delay n).nanos = b.rule n := by
  have hfactor : factor? n = some (2 ^ n) := if_pos h
  unfold delay rule
  rw [hfactor, Option.bind_some, Duration.mul?, Duration.ofNanos?]
  split
  · rename_i d hd
    split at hd
    · cases hd
      exact Duration.nanos_min ..
    · cases hd
  · rename_i hnone
    split at hnone
    · cases hnone
    · rename_i hlong
      have hmax := b.max.nanos_lt
      omega

theorem delay_of_le (h : 32 ≤ n) : b.delay n = b.max := by
  have hfactor : factor? n = none := if_neg (Nat.not_lt.mpr h)
  rw [delay, hfactor, Option.bind_none]

theorem nanos_delay (b : Backoff) (n : Nat) :
    (b.delay n).nanos = if n < 32 then b.rule n else b.max.nanos := by
  split
  · exact nanos_delay_of_lt ‹_›
  · rw [delay_of_le (Nat.not_lt.mp ‹_›)]

theorem nanos_delay_le (b : Backoff) (n : Nat) : (b.delay n).nanos ≤ b.max.nanos := by
  rw [nanos_delay]
  split
  · exact Nat.min_le_right ..
  · exact Nat.le_refl _

theorem base_mul_pow_le (b : Backoff) (h : m ≤ n) :
    b.base.nanos * 2 ^ m ≤ b.base.nanos * 2 ^ n :=
  Nat.mul_le_mul_left _ (Nat.pow_le_pow_right (by decide) h)

/-- The delay does not get shorter with more failures, also where the factor stops fitting. -/
theorem nanos_delay_mono (b : Backoff) (h : m ≤ n) : (b.delay m).nanos ≤ (b.delay n).nanos := by
  by_cases hn : n < 32
  · have hpow := b.base_mul_pow_le h
    rw [nanos_delay_of_lt (Nat.lt_of_le_of_lt h hn), nanos_delay_of_lt hn, rule, rule]
    omega
  · rw [delay_of_le (Nat.not_lt.mp hn)]
    exact b.nanos_delay_le m

theorem nanos_delay_eq_rule_iff :
    (b.delay n).nanos = b.rule n ↔ n < 32 ∨ b.max.nanos ≤ b.base.nanos * 2 ^ n := by
  rw [nanos_delay, rule]
  split <;> omega

/-- The delay is the base times 2^n, capped at the maximum, for fewer than 32 failures, and it is
the maximum for all others.  So it follows the rule just where the factor fits or the product comes
up to the maximum, and it does so for all numbers of failures just if the product with 2^32 does. -/
theorem follows_rule_iff (b : Backoff) :
    (∀ n, (b.delay n).nanos =
      if n < 32 then min (b.base.nanos * 2 ^ n) b.max.nanos else b.max.nanos) ∧
    (∀ n, (b.delay n).nanos = min (b.base.nanos * 2 ^ n) b.max.nanos ↔
      n < 32 ∨ b.max.nanos ≤ b.base.nanos * 2 ^ n) ∧
    ((∀ n, (b.delay n).nanos = min (b.base.nanos * 2 ^ n) b.max.nanos) ↔
      b.max.nanos ≤ b.base.nanos * 2 ^ 32) := by
  refine ⟨b.nanos_delay, fun n => nanos_delay_eq_rule_iff, fun h => ?_, fun h n => ?_⟩
  · exact (nanos_delay_eq_rule_iff.mp (h 32)).resolve_left (by decide)
  · refine nanos_delay_eq_rule_iff.mpr ((Nat.lt_or_ge n 32).imp id fun hn => ?_)
    exact Nat.le_trans h (b.base_mul_pow_le hn)

/-- Without a base the rule says that a key is retried at once, however often it has failed; but
after 32 failures it waits for the longest delay. -/
theorem zero_base_waits :
    let b : Backoff := ⟨.zero, .ofSecs 10⟩
    min (b.base.nanos * 2 ^ 32) b.max.nanos = 0 ∧ (b.delay 32).nanos = 10 * nanosPerSecond := by
  decide

end FaasOperator.Backoff
