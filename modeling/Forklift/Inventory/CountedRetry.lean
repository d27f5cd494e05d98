import Forklift.Inventory.Retry

/-! # Attempts counted in 32 bits

The same repeated fetch as a loop over a counter of 32 bits that keeps the error of the last attempt
for the time when no attempt is left. Such a loop could count too far, or be through without an error
at hand; both are endings of their own, so that it can be said that they do not occur.
-/

namespace Forklift

/-- How a loop over attempts ends. -/
inductive CountedRun (σ : Type) where
  /-- As a run of attempts does. -/
  | ended (fetched : Fetched σ)
  /-- The counter does not fit in 32 bits. -/
  | counterOverflow
  /-- No attempt is left, and no error has been kept. -/
  | nothingKept

/-- The next number, if it fits in 32 bits. -/
def nextAttempt? (attempt : UInt32) : Option UInt32 :=
  if attempt.toNat + 1 < UInt32.size then some (attempt + 1) else none

theorem toNat_of_nextAttempt? {attempt next : UInt32} (fits : nextAttempt? attempt = some next) :
    next.toNat = attempt.toNat + 1 := by
  unfold nextAttempt? at fits
  split at fits
  · rename_i small
    rw [← Option.some.inj fits, UInt32.toNat_add]
    exact Nat.mod_eq_of_lt small
  · cases fits

/-- A number below another one has a next one in 32 bits. -/
theorem nextAttempt?_of_lt {attempt limit : UInt32} (below : attempt < limit) :
    ∃ next, nextAttempt? attempt = some next ∧ next.toNat = attempt.toNat + 1 := by
  have small : attempt.toNat + 1 < UInt32.size := by
    have bound := limit.toNat_lt_size
    rw [UInt32.lt_iff_toNat_lt] at below
    omega
  have fits : nextAttempt? attempt = some (attempt + 1) := if_pos small
  exact ⟨attempt + 1, fits, toNat_of_nextAttempt? fits⟩

namespace RetryPolicy

variable {σ : Type}

/-- Makes the attempts from a number up to a limit. The waits before it are given last first. -/
def countedAttempts (policy : RetryPolicy) (limit : UInt32) (fetch : Source σ) (attempt : UInt32)
    (kept? : Option InventoryError) (waits : List Duration) (source : σ) : CountedRun σ :=
  if attempt < limit then
    match fetch source with
    | (.ok records, after) => .ended ⟨.ok records, after, attempt.toNat + 1, waits.reverse⟩
    | (.error error, after) =>
      if !error.retryable then .ended ⟨.error error, after, attempt.toNat + 1, waits.reverse⟩
      else
        match _fits : nextAttempt? attempt with
        | none => .counterOverflow
        | some next =>
          let waits := if next < limit then policy.delay attempt.toNat :: waits else waits
          policy.countedAttempts limit fetch next (some error) waits after
  else
    match kept? with
    | some error =>
      .ended ⟨.error (.retriesExhausted limit.toNat error), source, attempt.toNat, waits.reverse⟩
    | none => .nothingKept
termination_by limit.toNat - attempt.toNat
decreasing_by
  rename_i below _
  have larger := toNat_of_nextAttempt? _fits
  rw [UInt32.lt_iff_toNat_lt] at below
  omega

section Equations

variable (policy : RetryPolicy) {limit attempt : UInt32} {fetch : Source σ} {source after : σ}
  {error : InventoryError} (kept? : Option InventoryError) (waits : List Duration)

theorem countedAttempts_of_final {outcome : Except InventoryError Inventory}
    (below : attempt < limit) (yields : fetch source = (outcome, after))
    (final : ∀ error, outcome = .error error → error.retryable = false) :
    policy.countedAttempts limit fetch attempt kept? waits source =
      .ended ⟨outcome, after, attempt.toNat + 1, waits.reverse⟩ := by
  unfold countedAttempts
  cases outcome with
  | ok records => simp only [below, yields, ↓reduceIte]
  | error error => simp only [below, yields, final error rfl, Bool.not_false, ↓reduceIte]

theorem countedAttempts_of_retry {next : UInt32} (below : attempt < limit)
    (yields : fetch source = (.error error, after)) (retryable : error.retryable = true)
    (fits : nextAttempt? attempt = some next) :
    policy.countedAttempts limit fetch attempt kept? waits source =
      policy.countedAttempts limit fetch next (some error)
        (if next < limit then policy.delay attempt.toNat :: waits else waits) after := by
  rw [countedAttempts.eq_def]
  simp only [below, yields, retryable, Bool.not_true, Bool.false_eq_true, ↓reduceIte]
  split
  · rename_i overflow
    rw [fits] at overflow
    cases overflow
  · rename_i found
    rw [fits] at found
    cases found
    rfl

theorem countedAttempts_of_spent (spent : ¬ attempt < limit) :
    policy.countedAttempts limit fetch attempt (some error) waits source =
      .ended ⟨.error (.retriesExhausted limit.toNat error), source, attempt.toNat,
        waits.reverse⟩ := by
  unfold countedAttempts
  simp only [spent, ↓reduceIte]

end Equations

/-- Fetches under a policy that allows a number of attempts below 2 to the power of 32. -/
def countedFetch (policy : RetryPolicy) (limit : UInt32) (fetch : Source σ) (source : σ) :
    CountedRun σ :=
  if limit = 0 then .ended ⟨.error .invalidConfig, source, 0, []⟩
  else policy.countedAttempts limit fetch 0 none [] source

end RetryPolicy

end Forklift
