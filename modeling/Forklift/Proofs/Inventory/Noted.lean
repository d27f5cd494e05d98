import Forklift.Inventory.CacheHistory

/-! # Noted fetches

Noting what the fetches yield changes nothing else. What is noted of a run of attempts holds as many
outcomes as fetches were made, and one success if the run succeeded and none if it failed. The same
is noted of a cache, which fetches nothing while it is fresh.
-/

namespace Forklift

variable {σ : Type}

theorem Source.noted_of_yields {fetch : Source σ} {source after : σ} {outcome : Outcome}
    (yields : fetch source = (outcome, after)) (notes : List Outcome) :
    fetch.noted (source, notes) = (outcome, after, notes ++ [outcome]) := by
  simp only [Source.noted, yields]

namespace RetryPolicy

/-- A success and a permanent failure are what the run of attempts comes to. -/
theorem attempts_of_final {policy : RetryPolicy} {fetch : Source σ} {source after : σ}
    {outcome : Outcome} (yields : fetch source = (outcome, after))
    (final : ∀ error, outcome = .error error → error.retryable = false)
    (attempt : Nat) (waits : List Duration) (further : Nat) :
    policy.attempts fetch attempt waits further source =
      ⟨outcome, after, attempt + 1, waits.reverse⟩ := by
  cases outcome with
  | ok records => simp only [attempts, yields]
  | error error => simp only [attempts, yields, final error rfl, Bool.not_false, ↓reduceIte]

theorem attempts_of_exhausted {policy : RetryPolicy} {fetch : Source σ} {source after : σ}
    {error : InventoryError} (yields : fetch source = (.error error, after))
    (retryable : error.retryable = true) (attempt : Nat) (waits : List Duration) :
    policy.attempts fetch attempt waits 0 source =
      ⟨.error (.retriesExhausted policy.maxAttempts error), after, attempt + 1, waits.reverse⟩ := by
  simp only [attempts, yields, retryable, Bool.not_true, Bool.false_eq_true, ↓reduceIte]

theorem attempts_of_retry {policy : RetryPolicy} {fetch : Source σ} {source after : σ}
    {error : InventoryError} (yields : fetch source = (.error error, after))
    (retryable : error.retryable = true) (attempt : Nat) (waits : List Duration) (further : Nat) :
    policy.attempts fetch attempt waits (further + 1) source =
      policy.attempts fetch (attempt + 1) (policy.delay attempt :: waits) further after := by
  rw [attempts]
  simp only [yields, retryable, Bool.not_true, Bool.false_eq_true, ↓reduceIte]

/-- What a fetch yields ends the run of attempts, or it is an error after which to try again. -/
theorem final_or_retryable (outcome : Outcome) :
    (∀ error, outcome = .error error → error.retryable = false) ∨
      ∃ error, outcome = .error error ∧ error.retryable = true := by
  cases outcome with
  | ok records =>
    left
    intro error same
    cases same
  | error error =>
    cases retryable : error.retryable with
    | true => exact .inr ⟨error, rfl, retryable⟩
    | false =>
      left
      intro other same
      cases same
      exact retryable

/-- A run of attempts that ends with its first fetch notes that one. -/
private theorem attempts_noted_of_final {policy : RetryPolicy} {fetch : Source σ}
    {source after : σ} {outcome : Outcome} (yields : fetch source = (outcome, after))
    (final : ∀ error, outcome = .error error → error.retryable = false)
    (attempt : Nat) (waits : List Duration) (further : Nat) (notes : List Outcome) :
    let plain := policy.attempts fetch attempt waits further source
    policy.attempts fetch.noted attempt waits further (source, notes) =
        ⟨plain.result, (plain.source, notes ++ [outcome]), plain.fetches, plain.waits⟩ ∧
      plain.fetches = attempt + 1 ∧ inventories [outcome] = plain.result.toOption.toList := by
  have noted := Source.noted_of_yields yields notes
  simp only [attempts_of_final yields final, attempts_of_final noted final, true_and]
  cases outcome <;> rfl

/-- A noted run of attempts goes as the plain one, and its notes tell of each of its fetches. -/
theorem attempts_noted (policy : RetryPolicy) (fetch : Source σ) (attempt : Nat)
    (waits : List Duration) (further : Nat) (source : σ) (notes : List Outcome) :
    let plain := policy.attempts fetch attempt waits further source
    ∃ outcomes, policy.attempts fetch.noted attempt waits further (source, notes) =
        ⟨plain.result, (plain.source, notes ++ outcomes), plain.fetches, plain.waits⟩ ∧
      plain.fetches = attempt + outcomes.length ∧
      inventories outcomes = plain.result.toOption.toList := by
  induction further generalizing attempt waits source notes with
  | zero =>
    rcases yields : fetch source with ⟨outcome, after⟩
    refine ⟨[outcome], ?_⟩
    obtain final | ⟨error, rfl, retryable⟩ := final_or_retryable outcome
    · exact attempts_noted_of_final yields final attempt waits 0 notes
    · have noted := Source.noted_of_yields yields notes
      simp only [attempts_of_exhausted yields retryable, attempts_of_exhausted noted retryable]
      exact ⟨trivial, rfl, rfl⟩
  | succ further ih =>
    rcases yields : fetch source with ⟨outcome, after⟩
    obtain final | ⟨error, rfl, retryable⟩ := final_or_retryable outcome
    · exact ⟨[outcome], attempts_noted_of_final yields final attempt waits (further + 1) notes⟩
    · have noted := Source.noted_of_yields yields notes
      -- The rest of the run starts from the notes of this fetch.
      obtain ⟨outcomes, run, counted, brought⟩ := ih (attempt + 1) (policy.delay attempt :: waits)
        after (notes ++ [.error error])
      refine ⟨.error error :: outcomes, ?_⟩
      rw [attempts_of_retry yields retryable, attempts_of_retry noted retryable]
      refine ⟨?_, ?_, ?_⟩
      · rw [run, List.append_assoc, List.singleton_append]
      · rw [counted, List.length_cons, Nat.add_assoc, Nat.add_comm 1]
      · rw [← brought]
        rfl

/-- A noted fetch goes as the plain one. Its notes hold one success if it succeeded, and none if it
failed. -/
theorem fetch_noted (policy : RetryPolicy) (fetch : Source σ) (source : σ) :
    let plain := policy.fetch fetch source
    ∃ outcomes, policy.fetch fetch.noted (source, []) =
        ⟨plain.result, (plain.source, outcomes), plain.fetches, plain.waits⟩ ∧
      plain.fetches = outcomes.length ∧ inventories outcomes = plain.result.toOption.toList := by
  cases allowed : policy.maxAttempts with
  | zero =>
    refine ⟨[], ?_⟩
    simp only [RetryPolicy.fetch, allowed]
    exact ⟨trivial, rfl, rfl⟩
  | succ further =>
    obtain ⟨outcomes, run, counted, brought⟩ :=
      policy.attempts_noted fetch 0 [] further source []
    refine ⟨outcomes, ?_⟩
    simp only [RetryPolicy.fetch, allowed]
    rw [List.nil_append] at run
    rw [Nat.zero_add] at counted
    exact ⟨run, counted, brought⟩

end RetryPolicy

/-- A request with noted fetches goes as the plain one. Its notes hold what it served, unless the
cache was fresh. -/
theorem Cache.get_noted (cache : Cache) (fetch : Source σ) (now : Nat) (source : σ) :
    let plain := cache.get fetch now source
    ∃ outcomes, cache.get fetch.noted now (source, []) =
        ⟨plain.result, plain.cache, (plain.source, outcomes), plain.fetches⟩ ∧
      plain.fetches = outcomes.length ∧ inventories outcomes =
        if cache.isFreshAt now then [] else plain.result.toOption.toList := by
  cases fresh : cache.isFreshAt now with
  | true =>
    refine ⟨[], ?_⟩
    rw [get_of_fresh fresh, get_of_fresh fresh]
    exact ⟨rfl, rfl, rfl⟩
  | false =>
    obtain ⟨outcomes, run, counted, brought⟩ := cache.retry.fetch_noted fetch source
    refine ⟨outcomes, ?_⟩
    cases result : (cache.retry.fetch fetch source).result with
    | ok records =>
      have noted : (cache.retry.fetch fetch.noted (source, [])).result = .ok records := by
        rw [run, result]
      rw [result] at brought
      rw [get_of_fetched fresh result, get_of_fetched fresh noted, run]
      exact ⟨rfl, counted, brought⟩
    | error error =>
      have noted : (cache.retry.fetch fetch.noted (source, [])).result = .error error := by
        rw [run, result]
      rw [result] at brought
      rw [get_of_failed fresh result, get_of_failed fresh noted, run]
      exact ⟨rfl, counted, brought⟩

end Forklift
