import Forklift.Inventory.Backoff

/-! # How far the waits double

A wait is meant to be the initial delay, doubled once for each attempt before, up to the cap. The
bound on the product never shows, since no cap lies above it. The bound on the factor shows from the
33rd attempt on, where the cap is longer than the largest factor of initial delays.
-/

namespace Forklift

namespace Duration

/-- Spans that can be told in 64 bits of seconds and a part of one more second. -/
def IsTold (duration : Duration) : Prop :=
  ∃ seconds < UInt64.size, ∃ nanoseconds < nanosecondsPerSecond,
    duration = .of seconds nanoseconds

theorem isTold_iff {duration : Duration} :
    duration.IsTold ↔ duration.nanoseconds ≤ longest.nanoseconds := by
  simp only [IsTold, longest, of, nanosecondsPerSecond, UInt64.size]
  constructor
  · rintro ⟨seconds, whole, nanoseconds, part, rfl⟩
    simp only
    omega
  · intro bounded
    refine ⟨duration.nanoseconds / 1000000000, by omega, duration.nanoseconds % 1000000000,
      by omega, ?_⟩
    rw [Nat.div_add_mod']

/-- The bound on a multiple does not show under a cap that can itself be told. -/
theorem shorter_times {cap : Duration} (told : cap.IsTold) (duration : Duration) (factor : Nat) :
    (duration.times factor).shorter cap =
      shorter ⟨duration.nanoseconds * factor⟩ cap := by
  have bounded := isTold_iff.1 told
  simp only [times, shorter, mk.injEq]
  omega

end Duration

namespace RetryPolicy

/-- The wait after an attempt where nothing but the cap keeps it from doubling. -/
def doubled (policy : RetryPolicy) (attempt : Nat) : Duration :=
  .shorter ⟨policy.initialDelay.nanoseconds * Nat.pow 2 attempt⟩ policy.maxDelay

variable {policy : RetryPolicy} {attempt : Nat}

theorem delay_of_few (told : policy.maxDelay.IsTold) (few : attempt < 32) :
    policy.delay attempt = policy.doubled attempt := by
  rw [delay, Duration.shorter_times told, factor_eq_min, Nat.min_eq_left (two_pow_le_maxFactor few),
    doubled]

theorem delay_of_many (told : policy.maxDelay.IsTold) (many : 32 ≤ attempt) :
    policy.delay attempt = .shorter ⟨policy.initialDelay.nanoseconds * maxFactor⟩ policy.maxDelay := by
  have above := maxFactor_lt_two_pow many
  rw [delay, Duration.shorter_times told, factor_eq_min, Nat.min_eq_right (Nat.le_of_lt above)]

/-- Where the cap lets the bound on the factor show, a wait stays short of what it would double to. -/
theorem delay_of_shown (told : policy.maxDelay.IsTold) (many : 32 ≤ attempt)
    (positive : 0 < policy.initialDelay.nanoseconds)
    (shown : policy.initialDelay.nanoseconds * maxFactor < policy.maxDelay.nanoseconds) :
    policy.delay attempt = ⟨policy.initialDelay.nanoseconds * maxFactor⟩ ∧
      (policy.delay attempt).nanoseconds < (policy.doubled attempt).nanoseconds := by
  have stays : policy.delay attempt = ⟨policy.initialDelay.nanoseconds * maxFactor⟩ := by
    rw [delay_of_many told many, Duration.shorter, Nat.min_eq_left (Nat.le_of_lt shown)]
  have grown : policy.initialDelay.nanoseconds * maxFactor <
      policy.initialDelay.nanoseconds * Nat.pow 2 attempt :=
    Nat.mul_lt_mul_of_pos_left (maxFactor_lt_two_pow many) positive
  refine ⟨stays, ?_⟩
  rw [stays]
  exact Nat.lt_min.2 ⟨grown, shown⟩

/-- Where the cap hides the bound on the factor, it hides it for all attempts. -/
theorem delay_of_capped (told : policy.maxDelay.IsTold) (many : 32 ≤ attempt)
    (capped : policy.maxDelay.nanoseconds ≤ policy.initialDelay.nanoseconds * maxFactor) :
    policy.delay attempt = policy.doubled attempt := by
  have grown : policy.initialDelay.nanoseconds * maxFactor ≤
      policy.initialDelay.nanoseconds * Nat.pow 2 attempt :=
    Nat.mul_le_mul_left _ (Nat.le_of_lt (maxFactor_lt_two_pow many))
  rw [delay_of_many told many, doubled, Duration.shorter, Duration.shorter,
    Nat.min_eq_right capped, Nat.min_eq_right (Nat.le_trans capped grown)]

theorem delay_of_zero (told : policy.maxDelay.IsTold) (none : policy.initialDelay = .zero) :
    policy.delay attempt = policy.doubled attempt := by
  rw [delay, Duration.shorter_times told, doubled, none, Duration.zero, Nat.zero_mul, Nat.zero_mul]

/-- The waits double up to the cap for the first 32 attempts, and for all further ones if no delay is
asked for or the cap is at most the initial delay times the largest factor. In all other cases a wait
stays at that product, short of what it would double to. -/
theorem delay_doubles (told : policy.maxDelay.IsTold) (attempt : Nat) :
    (policy.delay attempt = policy.doubled attempt ↔
      attempt < 32 ∨ policy.initialDelay = .zero ∨
        policy.maxDelay.nanoseconds ≤ policy.initialDelay.nanoseconds * maxFactor) ∧
    (policy.delay attempt ≠ policy.doubled attempt →
      policy.delay attempt = ⟨policy.initialDelay.nanoseconds * maxFactor⟩ ∧
        (policy.delay attempt).nanoseconds < (policy.doubled attempt).nanoseconds) := by
  by_cases met : attempt < 32 ∨ policy.initialDelay = .zero ∨
      policy.maxDelay.nanoseconds ≤ policy.initialDelay.nanoseconds * maxFactor
  · have same : policy.delay attempt = policy.doubled attempt := by
      rcases met with few | none | capped
      · exact delay_of_few told few
      · exact delay_of_zero told none
      · by_cases few : attempt < 32
        · exact delay_of_few told few
        · exact delay_of_capped told (Nat.le_of_not_lt few) capped
    exact ⟨iff_of_true same met, fun other => absurd same other⟩
  · obtain ⟨many, asked, shown⟩ := not_or.1 met |>.imp_right not_or.1
    have positive : 0 < policy.initialDelay.nanoseconds := by
      apply Nat.pos_of_ne_zero
      intro nothing
      exact asked (congrArg Duration.mk nothing)
    have stays := delay_of_shown told (Nat.le_of_not_lt many) positive (Nat.lt_of_not_le shown)
    have other : policy.delay attempt ≠ policy.doubled attempt := by
      intro same
      rw [same] at stays
      exact Nat.lt_irrefl _ stays.2
    exact ⟨iff_of_false other met, fun _ => stays⟩

/-- A nanosecond has doubled 32 times after the 33rd attempt, but the wait is a nanosecond shorter. -/
theorem delay_doubles_of_nanosecond :
    let policy : RetryPolicy := ⟨34, .of 0 1, .of 30 0⟩
    policy.maxDelay.IsTold ∧ policy.delay 32 ≠ policy.doubled 32 ∧
      policy.delay 32 = .of 4 294967295 := by
  intro policy
  have told : policy.maxDelay.IsTold := ⟨30, by decide, 0, by decide, rfl⟩
  have other : policy.delay 32 ≠ policy.doubled 32 := by decide +kernel
  obtain ⟨stays, -⟩ := (delay_doubles told 32).2 other
  refine ⟨told, other, ?_⟩
  rw [stays]
  decide +kernel

/-- The waits do not double for ever below their cap. -/
theorem delay_below_cap :
    ¬ ∀ (policy : RetryPolicy) (attempt : UInt32), policy.initialDelay.IsTold →
      policy.maxDelay.IsTold → policy.delay attempt.toNat = policy.doubled attempt.toNat := by
  intro doubles
  have same := doubles ⟨34, .of 0 1, .of 30 0⟩ 32 ⟨0, by decide, 1, by decide, rfl⟩
    ⟨30, by decide, 0, by decide, rfl⟩
  revert same
  decide +kernel

end RetryPolicy

end Forklift
