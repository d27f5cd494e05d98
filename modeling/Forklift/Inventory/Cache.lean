import Forklift.Inventory.Retry

/-! # Cached inventories

A cache serves the inventory of its last successful fetch while that is fresh, and fetches again
otherwise. A failed fetch changes nothing, and marking the inventory as out of date keeps its records
readable.
-/

namespace Forklift

/-- An inventory and the moment when it was fetched. -/
structure Snapshot where
  records : Inventory
  /-- Counted in nanoseconds from a fixed moment. -/
  fetchedAt : Nat
  /-- Whether the inventory has been marked as out of date. -/
  invalidated : Bool
deriving DecidableEq, Repr

/-- The settings of a cache and the inventory that it holds. -/
structure Cache where
  /-- How long an inventory is fresh. -/
  freshness : Duration
  retry : RetryPolicy
  snapshot? : Option Snapshot
deriving DecidableEq, Repr

namespace Cache

variable {σ : Type}

/-- How long an inventory is fresh unless set otherwise. -/
def standardFreshness : Duration :=
  .of 300 0

/-- A cache that has fetched nothing. -/
def empty (freshness : Duration) (retry : RetryPolicy) : Cache :=
  ⟨freshness, retry, none⟩

/-- The records of the last successful fetch, and none before the first. -/
def records (cache : Cache) : Inventory :=
  (cache.snapshot?.map Snapshot.records).getD []

/-- Whether the cache can serve what it holds. Before the moment of the fetch no time has passed. -/
def isFreshAt (cache : Cache) (now : Nat) : Bool :=
  cache.snapshot?.any fun snapshot =>
    !snapshot.invalidated && now - snapshot.fetchedAt < cache.freshness.nanoseconds

/-- Marks what the cache holds as out of date. -/
def invalidate (cache : Cache) : Cache :=
  { cache with snapshot? := cache.snapshot?.map fun snapshot =>
      { snapshot with invalidated := true } }

/-- What came of asking a cache. -/
structure Served (σ : Type) where
  result : Except InventoryError Inventory
  cache : Cache
  source : σ
  /-- How many fetches were made. -/
  fetches : Nat

/-- The inventory at a moment, from the source unless the cache is fresh. -/
def get (cache : Cache) (fetch : Source σ) (now : Nat) (source : σ) : Served σ :=
  if cache.isFreshAt now then ⟨.ok cache.records, cache, source, 0⟩
  else
    let fetched := cache.retry.fetch fetch source
    match fetched.result with
    | .ok records =>
      ⟨.ok records, { cache with snapshot? := some ⟨records, now, false⟩ }, fetched.source,
        fetched.fetches⟩
    | .error error => ⟨.error error, cache, fetched.source, fetched.fetches⟩

theorem isFreshAt_iff {cache : Cache} {now : Nat} : cache.isFreshAt now = true ↔
    ∃ snapshot, cache.snapshot? = some snapshot ∧ snapshot.invalidated = false ∧
      now - snapshot.fetchedAt < cache.freshness.nanoseconds := by
  cases held : cache.snapshot? with
  | none => simp [isFreshAt, held]
  | some snapshot => simp [isFreshAt, held]

theorem get_of_fresh {cache : Cache} {now : Nat} (fresh : cache.isFreshAt now = true)
    (fetch : Source σ) (source : σ) :
    cache.get fetch now source = ⟨.ok cache.records, cache, source, 0⟩ := by
  simp only [get, fresh, ↓reduceIte]

/-- A successful fetch is served, and held from then on. -/
theorem get_of_fetched {cache : Cache} {now : Nat} {fetch : Source σ} {source : σ}
    {records : Inventory} (stale : cache.isFreshAt now = false)
    (fetched : (cache.retry.fetch fetch source).result = .ok records) :
    cache.get fetch now source =
      ⟨.ok records, { cache with snapshot? := some ⟨records, now, false⟩ },
        (cache.retry.fetch fetch source).source, (cache.retry.fetch fetch source).fetches⟩ := by
  simp only [get, stale, fetched, Bool.false_eq_true, ↓reduceIte]

/-- A failed fetch leaves the cache as it was. -/
theorem get_of_failed {cache : Cache} {now : Nat} {fetch : Source σ} {source : σ}
    {error : InventoryError} (stale : cache.isFreshAt now = false)
    (failed : (cache.retry.fetch fetch source).result = .error error) :
    cache.get fetch now source =
      ⟨.error error, cache, (cache.retry.fetch fetch source).source,
        (cache.retry.fetch fetch source).fetches⟩ := by
  simp only [get, stale, failed, Bool.false_eq_true, ↓reduceIte]

/-- A request changes nothing of a cache but what it holds. -/
theorem exists_cache_get (cache : Cache) (fetch : Source σ) (now : Nat) (source : σ) :
    ∃ snapshot?, (cache.get fetch now source).cache = { cache with snapshot? } := by
  cases fresh : cache.isFreshAt now with
  | true =>
    rw [get_of_fresh fresh]
    exact ⟨cache.snapshot?, rfl⟩
  | false =>
    cases result : (cache.retry.fetch fetch source).result with
    | ok records =>
      rw [get_of_fetched fresh result]
      exact ⟨some ⟨records, now, false⟩, rfl⟩
    | error error =>
      rw [get_of_failed fresh result]
      exact ⟨cache.snapshot?, rfl⟩

/-- A mark leaves the records readable. -/
@[simp] theorem records_invalidate (cache : Cache) : cache.invalidate.records = cache.records := by
  unfold records invalidate
  cases cache.snapshot? <;> rfl

end Cache

end Forklift
