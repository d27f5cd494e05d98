/-! # Waiting between attempts

The wait after an attempt doubles from one attempt to the next and is capped. Both the factor and the
product stay within fixed bounds: the factor within 32 bits, the product within the longest span of
time that can be told.
-/

namespace Forklift

/-- A span of time in nanoseconds. -/
structure Duration where
  nanoseconds : Nat
deriving DecidableEq, Repr

namespace Duration

def zero : Duration := ⟨0⟩

def nanosecondsPerSecond : Nat := 1000000000

/-- The span of whole seconds and nanoseconds. -/
def of (seconds nanoseconds : Nat) : Duration :=
  ⟨seconds * nanosecondsPerSecond + nanoseconds⟩

def ofMilliseconds (n : Nat) : Duration :=
  ⟨n * 1000000⟩

/-- The whole seconds of a span. -/
def seconds (duration : Duration) : Nat :=
  duration.nanoseconds / nanosecondsPerSecond

/-- What a span has beyond its whole seconds, in nanoseconds. -/
def subsecond (duration : Duration) : Nat :=
  duration.nanoseconds % nanosecondsPerSecond

/-- The longest span: 64 bits of seconds, and just short of one more. -/
def longest : Duration :=
  of (UInt64.size - 1) (nanosecondsPerSecond - 1)

/-- The shorter of two spans. -/
def shorter (a b : Duration) : Duration :=
  ⟨min a.nanoseconds b.nanoseconds⟩

/-- A multiple of a span, or the longest span if the multiple is longer. -/
def times (duration : Duration) (factor : Nat) : Duration :=
  shorter ⟨duration.nanoseconds * factor⟩ longest

end Duration

/-- How often a fetch is attempted, and how long to wait in between. -/
structure RetryPolicy where
  maxAttempts : Nat
  initialDelay : Duration
  maxDelay : Duration
deriving DecidableEq, Repr

namespace RetryPolicy

/-- One attempt and one more, a second apart. -/
def standard : RetryPolicy :=
  ⟨2, .of 1 0, .of 30 0⟩

/-- A number of attempts without waiting. -/
def immediate (maxAttempts : Nat) : RetryPolicy :=
  ⟨maxAttempts, .zero, .zero⟩

/-- The largest factor by which the initial delay is multiplied. -/
def maxFactor : Nat := UInt32.size - 1

/-- The factor for the wait after an attempt, where the first attempt is number 0. -/
def factor (attempt : Nat) : Nat :=
  if attempt < 32 then Nat.pow 2 attempt else maxFactor

/-- The wait between an attempt and the next one. -/
def delay (policy : RetryPolicy) (attempt : Nat) : Duration :=
  .shorter (policy.initialDelay.times (factor attempt)) policy.maxDelay

theorem two_pow_le_maxFactor {attempt : Nat} (few : attempt < 32) : Nat.pow 2 attempt ≤ maxFactor := by
  have grown : Nat.pow 2 attempt ≤ Nat.pow 2 31 := Nat.pow_le_pow_right (by decide) (by omega)
  exact Nat.le_trans grown (by decide)

theorem maxFactor_lt_two_pow {attempt : Nat} (many : 32 ≤ attempt) : maxFactor < Nat.pow 2 attempt := by
  have grown : Nat.pow 2 32 ≤ Nat.pow 2 attempt := Nat.pow_le_pow_right (by decide) many
  exact Nat.lt_of_lt_of_le (by decide) grown

/-- The factor doubles from one attempt to the next as long as it fits in 32 bits. -/
theorem factor_eq_min (attempt : Nat) : factor attempt = min (Nat.pow 2 attempt) maxFactor := by
  unfold factor
  split
  · rename_i few
    exact (Nat.min_eq_left (two_pow_le_maxFactor few)).symm
  · rename_i many
    have above := maxFactor_lt_two_pow (Nat.le_of_not_lt many)
    exact (Nat.min_eq_right (Nat.le_of_lt above)).symm

theorem factor_le_factor {attempt later : Nat} (order : attempt ≤ later) :
    factor attempt ≤ factor later := by
  have grown : Nat.pow 2 attempt ≤ Nat.pow 2 later := Nat.pow_le_pow_right (by decide) order
  rw [factor_eq_min, factor_eq_min]
  omega

/-- A later wait is at least as long. -/
theorem delay_le_delay (policy : RetryPolicy) {attempt later : Nat} (order : attempt ≤ later) :
    (policy.delay attempt).nanoseconds ≤ (policy.delay later).nanoseconds := by
  have grown := Nat.mul_le_mul_left policy.initialDelay.nanoseconds (factor_le_factor order)
  simp only [delay, Duration.times, Duration.shorter]
  omega

theorem delay_le_maxDelay (policy : RetryPolicy) (attempt : Nat) :
    (policy.delay attempt).nanoseconds ≤ policy.maxDelay.nanoseconds :=
  Nat.min_le_right _ _

end RetryPolicy

end Forklift
