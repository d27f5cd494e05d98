import Forklift.Proofs.Inventory.Retries
import Forklift.Proofs.Inventory.Staleness

/-! # Failed requests

A request that fails uses up some fetches of the source and changes nothing else: whatever is asked
later is answered as if the request had not been made. The source is called only for an inventory that
is not fresh, and never more often than the settings allow, so the records stay those of the last
request that fetched them.
-/

namespace Forklift

variable {σ : Type}

namespace Cache

variable (cache : Cache) (fetch : Source σ) (now : Nat) (source : σ)

/-- A request that is not served from the cache makes the fetches of one run of attempts. -/
theorem source_and_fetches_get_of_stale (stale : cache.isFreshAt now = false) :
    (cache.get fetch now source).source = (cache.retry.fetch fetch source).source ∧
      (cache.get fetch now source).fetches = (cache.retry.fetch fetch source).fetches := by
  cases result : (cache.retry.fetch fetch source).result with
  | ok records =>
    rw [get_of_fetched stale result]
    exact ⟨rfl, rfl⟩
  | error error =>
    rw [get_of_failed stale result]
    exact ⟨rfl, rfl⟩

/-- A request leaves the source behind the fetches that it made. -/
theorem source_get : (cache.get fetch now source).source =
    fetch.after source (cache.get fetch now source).fetches := by
  cases fresh : cache.isFreshAt now with
  | true =>
    rw [get_of_fresh fresh]
    rfl
  | false =>
    obtain ⟨left, made⟩ := cache.source_and_fetches_get_of_stale fetch now source fresh
    rw [left, made]
    exact (cache.retry.source_and_waits_fetch fetch source).1

/-- The source is called exactly if the cache is not fresh and an attempt is allowed, and then at
most as often as attempts are allowed. -/
theorem fetches_get : (cache.get fetch now source).fetches ≤ cache.retry.maxAttempts ∧
    (0 < (cache.get fetch now source).fetches ↔
      cache.isFreshAt now = false ∧ 1 ≤ cache.retry.maxAttempts) := by
  cases fresh : cache.isFreshAt now with
  | true =>
    rw [get_of_fresh fresh]
    exact ⟨Nat.zero_le _, by simp⟩
  | false =>
    obtain ⟨-, made⟩ := cache.source_and_fetches_get_of_stale fetch now source fresh
    rw [made, eq_self, true_and]
    exact cache.retry.fetches_fetch fetch source

theorem cache_get_of_failed {cache : Cache} {fetch : Source σ} {now : Nat} {source : σ}
    {error : InventoryError} (failed : (cache.get fetch now source).result = .error error) :
    (cache.get fetch now source).cache = cache := by
  cases fresh : cache.isFreshAt now with
  | true => rw [get_of_fresh fresh]
  | false =>
    cases result : (cache.retry.fetch fetch source).result with
    | ok records =>
      rw [get_of_fetched fresh result] at failed
      cases failed
    | error cause => rw [get_of_failed fresh result]

end Cache

namespace CacheHistory

/-- What a request comes to hangs on the cache and the source, and not on what was asked before. -/
theorem step_eq (fetch : Source σ) (history : CacheHistory σ) (request : CacheRequest) :
    let alone := (start history.cache history.source).step fetch request
    history.step fetch request = ⟨alone.cache, alone.source, history.events ++ alone.events⟩ := by
  cases request <;> rfl

theorem foldl_step_eq (fetch : Source σ) (history : CacheHistory σ)
    (requests : List CacheRequest) :
    let alone := requests.foldl (step fetch) (start history.cache history.source)
    requests.foldl (step fetch) history =
      ⟨alone.cache, alone.source, history.events ++ alone.events⟩ := by
  induction requests generalizing history with
  | nil => exact congrArg (CacheHistory.mk _ _) (List.append_nil _).symm
  | cons request rest ih =>
    have first := ih ((start history.cache history.source).step fetch request)
    dsimp only at first ⊢
    rw [List.foldl_cons, List.foldl_cons, step_eq fetch history request, ih, first]
    rw [List.append_assoc]

/-- The records that a cache shows are what the last request that fetched was served, and there are
none where no request has fetched. -/
theorem Tracks.records {history : CacheHistory σ} (tracks : history.Tracks) :
    (∃ moment since, LastFetched history.events moment history.cache.records since) ∨
      history.cache.records = [] ∧ ∀ event ∈ history.events, event.fetched = [] := by
  unfold Tracks at tracks
  cases held : history.cache.snapshot? with
  | none =>
    simp only [held] at tracks
    have shown : history.cache.records = [] := by
      simp only [Cache.records, held, Option.map_none, Option.getD_none]
    exact .inr ⟨shown, tracks⟩
  | some snapshot =>
    simp only [held] at tracks
    obtain ⟨since, last, -⟩ := tracks
    have shown : history.cache.records = snapshot.records := by
      simp only [Cache.records, held, Option.map_some, Option.getD_some]
    refine .inl ⟨snapshot.fetchedAt, since, ?_⟩
    rw [shown]
    exact last

/-- A request that fails leaves the cache as it was: the source is behind the fetches that were made,
and all that is asked later is answered as if it had not been made. A request calls its source exactly
if the cache is not fresh and an attempt is allowed, and at most as often as attempts are allowed. The
records are always those of the last request that fetched, also when they are marked. -/
theorem failure_leaves_cache (freshness : Duration) (retry : RetryPolicy) (fetch : Source σ)
    (source : σ) (requests : List CacheRequest) (now : Nat) :
    let before := ofRequests freshness retry fetch source requests
    let served := before.cache.get fetch now before.source
    let after := ofRequests freshness retry fetch source (requests ++ [.get now])
    before.events.map CacheEvent.request = requests ∧
    (∃ outcomes, after.events = before.events ++ [.served now served.result outcomes] ∧
      after.source = fetch.after before.source outcomes.length ∧
      (outcomes ≠ [] ↔ before.cache.isFreshAt now = false ∧ 1 ≤ retry.maxAttempts) ∧
      outcomes.length ≤ retry.maxAttempts) ∧
    (∀ error, served.result = .error error → after.cache = before.cache ∧
      ∀ later : List CacheRequest, ∃ cache source answers,
        later.foldl (step fetch) after = ⟨cache, source, after.events ++ answers⟩ ∧
        later.foldl (step fetch) { before with source := after.source } =
          ⟨cache, source, before.events ++ answers⟩) ∧
    ((∃ moment since, LastFetched before.events moment before.cache.records since) ∨
      before.cache.records = [] ∧ ∀ event ∈ before.events, event.fetched = []) ∧
    (before.step fetch .invalidate).cache.records = before.cache.records := by
  intro before served after
  have tracks : before.Tracks := tracks_ofRequests freshness retry fetch source requests
  obtain ⟨snapshot?, settings⟩ := exists_cache_ofRequests freshness retry fetch source requests
  have policy : before.cache.retry = retry := by rw [settings]
  have stepped : after = before.step fetch (.get now) :=
    ofRequests_append freshness retry fetch source requests [.get now]
  obtain ⟨outcomes, answered, counted, -⟩ := before.step_get fetch now
  rw [← stepped] at answered
  refine ⟨request_ofRequests freshness retry fetch source requests, ⟨outcomes, ?_, ?_, ?_, ?_⟩, ?_,
    tracks.records, before.cache.records_invalidate⟩
  · rw [answered]
  · rw [answered, ← counted]
    exact before.cache.source_get fetch now before.source
  · rw [← List.length_pos_iff, ← counted, ← policy]
    exact (before.cache.fetches_get fetch now before.source).2
  · rw [← counted, ← policy]
    exact (before.cache.fetches_get fetch now before.source).1
  · intro error failed
    have kept : after.cache = before.cache := by
      rw [answered]
      exact Cache.cache_get_of_failed failed
    refine ⟨kept, ?_⟩
    intro later
    have made := foldl_step_eq fetch after later
    have skipped := foldl_step_eq fetch { before with source := after.source } later
    rw [kept] at made
    exact ⟨_, _, _, made, skipped⟩

/-- Behind a mark, a source that is out of reach for both attempts leaves the marked records. -/
theorem failure_leaves_cache_of_unavailable :
    let forklift : Equipment := ⟨"T20", "T20-1", "2020-01-01"⟩
    let down : Outcome := .error (.unavailable "down")
    let fetch : Source (List Outcome) := fun rest => (rest.headD (.ok []), rest.tail)
    let history := ofRequests Cache.standardFreshness .standard fetch [.ok [forklift], down, down]
    let before := history [.get 7, .invalidate]
    (before.cache.get fetch 9 before.source).result =
        .error (.retriesExhausted 2 (.unavailable "down")) ∧
      (history ([.get 7, .invalidate] ++ [.get 9])).cache = before.cache ∧
      before.cache.snapshot? = some ⟨[forklift], 7, true⟩ := by
  intro forklift down fetch history before
  have failed : (before.cache.get fetch 9 before.source).result =
      .error (.retriesExhausted 2 (.unavailable "down")) := by rfl
  obtain ⟨-, -, unchanged, -, -⟩ := failure_leaves_cache Cache.standardFreshness .standard fetch
    [.ok [forklift], down, down] [.get 7, .invalidate] 9
  exact ⟨failed, (unchanged _ failed).1, rfl⟩

end CacheHistory

end Forklift
