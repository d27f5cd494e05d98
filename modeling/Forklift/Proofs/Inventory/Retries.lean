import Forklift.Inventory.CountedRetry
import Forklift.Proofs.Inventory.Noted
import Mathlib.Data.Nat.Find

/-! # Runs of attempts

What a source yields, fetch after fetch, decides how a run of attempts goes: it ends with the first
outcome that is final, or when no attempt is left. What it returns, where it leaves the source and
what it waits follow from the place where it ends, and counting in 32 bits makes no difference.
-/

namespace Forklift

variable {σ : Type}

namespace Source

/-- The state of a source after a number of fetches. -/
def after (fetch : Source σ) (source : σ) : Nat → σ
  | 0 => source
  | n + 1 => after fetch (fetch source).2 n

/-- What a fetch yields, where the first one is number 0. -/
def outcome (fetch : Source σ) (source : σ) (n : Nat) : Outcome :=
  (fetch (fetch.after source n)).1

theorem after_succ (fetch : Source σ) (source : σ) (n : Nat) :
    fetch.after source (n + 1) = (fetch (fetch.after source n)).2 := by
  induction n generalizing source with
  | zero => rfl
  | succ n ih => exact ih (fetch source).2

theorem yields_after (fetch : Source σ) (source : σ) (n : Nat) :
    fetch (fetch.after source n) = (fetch.outcome source n, fetch.after source (n + 1)) := by
  rw [after_succ]
  rfl

end Source

/-- After a success and after a permanent failure nothing is attempted. -/
def Outcome.isFinal : Outcome → Bool
  | .ok _ => true
  | .error error => !error.retryable

theorem Outcome.of_isFinal {outcome : Outcome} (final : outcome.isFinal = true) :
    ∀ error, outcome = .error error → error.retryable = false := by
  rintro error rfl
  simpa [isFinal] using final

theorem Outcome.of_not_isFinal {outcome : Outcome} (further : outcome.isFinal = false) :
    ∃ error, outcome = .error error ∧ error.retryable = true := by
  cases outcome with
  | ok records => cases further
  | error error => exact ⟨error, rfl, by simpa [isFinal] using further⟩

namespace RetryPolicy

variable (policy : RetryPolicy) (fetch : Source σ)

/-- Attempts that fail for now are made one after the other, with a wait behind each. -/
theorem attempts_skip {source : σ} {count further : Nat} (attempt : Nat) (waits : List Duration)
    (allowed : count ≤ further)
    (failed : ∀ i < count, (fetch.outcome source i).isFinal = false) :
    policy.attempts fetch attempt waits further source =
      policy.attempts fetch (attempt + count)
        (((List.range' attempt count).map policy.delay).reverse ++ waits) (further - count)
        (fetch.after source count) := by
  induction count generalizing attempt waits further source with
  | zero => rfl
  | succ count ih =>
    obtain ⟨error, yields, retryable⟩ := Outcome.of_not_isFinal (failed 0 (by omega))
    obtain ⟨rest, rfl⟩ : ∃ rest, further = rest + 1 := ⟨further - 1, by omega⟩
    have first : fetch source = (.error error, (fetch source).2) := Prod.ext yields rfl
    have later : ∀ i < count, (fetch.outcome (fetch source).2 i).isFinal = false := by
      intro i below
      exact failed (i + 1) (by omega)
    rw [attempts_of_retry first retryable, ih (attempt + 1) _ (by omega) later,
      List.range'_succ, List.map_cons, List.reverse_cons, List.append_assoc]
    have counted : attempt + 1 + count = attempt + (count + 1) := by omega
    have left : rest - count = rest + 1 - (count + 1) := by omega
    rw [counted, left]
    rfl

theorem fetch_of_allowed (allowed : 0 < policy.maxAttempts) (source : σ) :
    policy.fetch fetch source = policy.attempts fetch 0 [] (policy.maxAttempts - 1) source := by
  unfold RetryPolicy.fetch
  split
  · omega
  · rename_i further settings
    rw [settings]
    rfl

theorem fetch_skip {source : σ} {count : Nat} (allowed : count < policy.maxAttempts)
    (failed : ∀ i < count, (fetch.outcome source i).isFinal = false) :
    policy.fetch fetch source =
      policy.attempts fetch count ((List.range count).map policy.delay).reverse
        (policy.maxAttempts - 1 - count) (fetch.after source count) := by
  rw [policy.fetch_of_allowed fetch (by omega), policy.attempts_skip fetch 0 [] (by omega) failed,
    Nat.zero_add, List.append_nil, List.range_eq_range']

/-- The first final outcome ends the run, whatever would have followed. -/
theorem fetch_of_final {source : σ} {k : Nat} (allowed : k < policy.maxAttempts)
    (final : (fetch.outcome source k).isFinal = true)
    (failed : ∀ i < k, (fetch.outcome source i).isFinal = false) :
    policy.fetch fetch source =
      ⟨fetch.outcome source k, fetch.after source (k + 1), k + 1,
        (List.range k).map policy.delay⟩ := by
  rw [policy.fetch_skip fetch allowed failed,
    attempts_of_final (fetch.yields_after source k) (Outcome.of_isFinal final), List.reverse_reverse]

/-- Where no outcome is final, the run ends with the last attempt that is allowed. -/
theorem fetch_of_not_final {source : σ} {last : Nat} (allowed : policy.maxAttempts = last + 1)
    (failed : ∀ i ≤ last, (fetch.outcome source i).isFinal = false) :
    ∃ error, fetch.outcome source last = .error error ∧ error.retryable = true ∧
      policy.fetch fetch source =
        ⟨.error (.retriesExhausted policy.maxAttempts error), fetch.after source (last + 1),
          last + 1, (List.range last).map policy.delay⟩ := by
  obtain ⟨error, yields, retryable⟩ := Outcome.of_not_isFinal (failed last (Nat.le_refl last))
  refine ⟨error, yields, retryable, ?_⟩
  have ended := fetch.yields_after source last
  rw [yields] at ended
  have spent : policy.maxAttempts - 1 - last = 0 := by omega
  have earlier : ∀ i < last, (fetch.outcome source i).isFinal = false := by
    intro i below
    exact failed i (Nat.le_of_lt below)
  rw [policy.fetch_skip fetch (by omega) earlier, spent, attempts_of_exhausted ended retryable,
    List.reverse_reverse]

theorem fetch_of_none {source : σ} (none : policy.maxAttempts = 0) :
    policy.fetch fetch source = ⟨.error .invalidConfig, source, 0, []⟩ := by
  simp only [RetryPolicy.fetch, none]

/-- A run makes no attempt, or ends with the first final outcome, or with the last attempt. -/
theorem fetch_cases (source : σ) :
    policy.maxAttempts = 0 ∨
      (∃ k < policy.maxAttempts, (fetch.outcome source k).isFinal = true ∧
        ∀ i < k, (fetch.outcome source i).isFinal = false) ∨
      ∃ last, policy.maxAttempts = last + 1 ∧
        ∀ i ≤ last, (fetch.outcome source i).isFinal = false := by
  by_cases ends : ∃ k, k < policy.maxAttempts ∧ (fetch.outcome source k).isFinal = true
  · obtain ⟨allowed, final⟩ := Nat.find_spec ends
    refine .inr (.inl ⟨Nat.find ends, allowed, final, ?_⟩)
    intro i below
    have earlier := Nat.find_min ends below
    rw [not_and, Bool.not_eq_true] at earlier
    exact earlier (Nat.lt_trans below allowed)
  · cases settings : policy.maxAttempts with
    | zero => exact .inl rfl
    | succ last =>
      refine .inr (.inr ⟨last, rfl, ?_⟩)
      intro i below
      rw [settings] at ends
      exact Bool.eq_false_iff.mpr fun final => ends ⟨i, Nat.lt_succ_of_le below, final⟩

/-- A run leaves its source behind the fetches that it counts, and waits between each two of them. -/
theorem source_and_waits_fetch (source : σ) :
    (policy.fetch fetch source).source = fetch.after source (policy.fetch fetch source).fetches ∧
      (policy.fetch fetch source).waits =
        (List.range ((policy.fetch fetch source).fetches - 1)).map policy.delay := by
  obtain none | ⟨k, allowed, final, failed⟩ | ⟨last, allowed, failed⟩ :=
    policy.fetch_cases fetch source
  · rw [policy.fetch_of_none fetch none]
    exact ⟨rfl, rfl⟩
  · rw [policy.fetch_of_final fetch allowed final failed]
    exact ⟨rfl, rfl⟩
  · obtain ⟨error, -, -, run⟩ := policy.fetch_of_not_final fetch allowed failed
    rw [run]
    exact ⟨rfl, rfl⟩

/-- A run makes no more fetches than its settings allow, and at least one if they allow any. -/
theorem fetches_fetch (source : σ) :
    (policy.fetch fetch source).fetches ≤ policy.maxAttempts ∧
      (0 < (policy.fetch fetch source).fetches ↔ 1 ≤ policy.maxAttempts) := by
  obtain none | ⟨k, allowed, final, failed⟩ | ⟨last, allowed, failed⟩ :=
    policy.fetch_cases fetch source
  · rw [policy.fetch_of_none fetch none, none]
    exact ⟨Nat.le_refl 0, Iff.rfl⟩
  · rw [policy.fetch_of_final fetch allowed final failed]
    dsimp only
    omega
  · obtain ⟨error, -, -, run⟩ := policy.fetch_of_not_final fetch allowed failed
    rw [run]
    dsimp only
    omega

/-! ## Counting in 32 bits -/

theorem countedAttempts_eq {limit attempt : UInt32} (bound : policy.maxAttempts = limit.toNat)
    {further : Nat} (left : attempt.toNat + further + 1 = limit.toNat)
    (kept? : Option InventoryError) (waits : List Duration) (source : σ) :
    policy.countedAttempts limit fetch attempt kept? waits source =
      .ended (policy.attempts fetch attempt.toNat waits further source) := by
  have below : attempt < limit := UInt32.lt_iff_toNat_lt.mpr (by omega)
  obtain ⟨next, fits, counted⟩ := nextAttempt?_of_lt below
  induction further generalizing attempt next kept? waits source with
  | zero =>
    rcases yields : fetch source with ⟨outcome, after⟩
    obtain final | ⟨error, rfl, retryable⟩ := final_or_retryable outcome
    · rw [attempts_of_final yields final,
        policy.countedAttempts_of_final kept? waits below yields final]
    · have spent : ¬ next < limit := by
        rw [UInt32.lt_iff_toNat_lt]
        omega
      rw [policy.countedAttempts_of_retry kept? waits below yields retryable fits, if_neg spent,
        policy.countedAttempts_of_spent waits spent, attempts_of_exhausted yields retryable, bound,
        counted]
  | succ further ih =>
    rcases yields : fetch source with ⟨outcome, after⟩
    obtain final | ⟨error, rfl, retryable⟩ := final_or_retryable outcome
    · rw [attempts_of_final yields final,
        policy.countedAttempts_of_final kept? waits below yields final]
    · have more : next < limit := UInt32.lt_iff_toNat_lt.mpr (by omega)
      obtain ⟨following, fitting, recounted⟩ := nextAttempt?_of_lt more
      rw [policy.countedAttempts_of_retry kept? waits below yields retryable fits, if_pos more,
        ih (by omega) _ _ _ more following fitting recounted, attempts_of_retry yields retryable,
        counted]

/-- Counting in 32 bits, a run ends as it does without a bound: the counter never overflows, and an
error is at hand when no attempt is left. -/
theorem countedFetch_eq {limit : UInt32} (bound : policy.maxAttempts = limit.toNat) (source : σ) :
    policy.countedFetch limit fetch source = .ended (policy.fetch fetch source) := by
  unfold countedFetch
  split
  · rename_i zero
    rw [zero] at bound
    rw [policy.fetch_of_none fetch bound]
  · rename_i allowed
    have positive : 0 < limit.toNat := by
      have nonzero : limit.toNat ≠ 0 := fun same => allowed (UInt32.toNat_inj.mp same)
      omega
    have left : (0 : UInt32).toNat + (limit.toNat - 1) + 1 = limit.toNat := by
      rw [UInt32.toNat_zero]
      omega
    rw [policy.countedAttempts_eq fetch bound left, policy.fetch_of_allowed fetch (by omega), bound,
      UInt32.toNat_zero]

/-- A run of attempts returns the first final outcome among those that its settings allow, unchanged,
and fetches nothing behind it. Where there is none, every attempt is made, and the last one failed
for a reason that may pass. Settings that allow no attempt fetch nothing. Between each two fetches
there is the wait of that place; waits never become shorter and are capped. A loop that counts in 32
bits does the same, and never overflows or lacks an error to report. -/
theorem fetch_ends_at_first_final (source : σ) :
    let run := policy.fetch fetch source
    let outcome := fetch.outcome source
    (policy.maxAttempts = 0 → run.result = .error .invalidConfig ∧ run.fetches = 0) ∧
    (∀ k < policy.maxAttempts, (outcome k).isFinal = true →
      (∀ i < k, (outcome i).isFinal = false) → run.result = outcome k ∧ run.fetches = k + 1) ∧
    (0 < policy.maxAttempts → (∀ i < policy.maxAttempts, (outcome i).isFinal = false) →
      run.fetches = policy.maxAttempts ∧
      ∃ error, outcome (policy.maxAttempts - 1) = .error error ∧
        run.result = .error (.retriesExhausted policy.maxAttempts error) ∧
        ((∃ path said, error = .io path said) ∨ ∃ message, error = .unavailable message)) ∧
    run.source = fetch.after source run.fetches ∧
    run.waits = (List.range (run.fetches - 1)).map policy.delay ∧
    run.waits.Pairwise (·.nanoseconds ≤ ·.nanoseconds) ∧
    (∀ wait ∈ run.waits, wait.nanoseconds ≤ policy.maxDelay.nanoseconds) ∧
    (∀ limit : UInt32, policy.maxAttempts = limit.toNat →
      policy.countedFetch limit fetch source = .ended run) := by
  dsimp only
  obtain ⟨left, waits⟩ := policy.source_and_waits_fetch fetch source
  refine ⟨?_, ?_, ?_, left, waits, ?_, ?_, ?_⟩
  · intro none
    rw [policy.fetch_of_none fetch none]
    exact ⟨rfl, rfl⟩
  · intro k allowed final failed
    rw [policy.fetch_of_final fetch allowed final failed]
    exact ⟨rfl, rfl⟩
  · intro allowed failed
    obtain ⟨last, settings⟩ := Nat.exists_eq_add_one.mpr allowed
    obtain ⟨error, yields, retryable, run⟩ := policy.fetch_of_not_final fetch settings
      fun i below => failed i (by omega)
    rw [run, settings]
    exact ⟨rfl, error, yields, rfl, InventoryError.retryable_iff.mp retryable⟩
  · rw [waits, List.pairwise_map]
    exact List.pairwise_lt_range.imp fun order => policy.delay_le_delay (Nat.le_of_lt order)
  · rw [waits]
    intro wait member
    obtain ⟨attempt, -, rfl⟩ := List.mem_map.mp member
    exact policy.delay_le_maxDelay attempt
  · intro limit bound
    exact policy.countedFetch_eq fetch bound source

end RetryPolicy

end Forklift
