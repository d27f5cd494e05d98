import Forklift.Inventory.Cache

/-! # Histories of a cache

A history is what a cache has been asked and what came of it, oldest first. Each fetch that a request
takes is noted with what it yields, so that a history tells where the inventory of a cache came from.
-/

namespace Forklift

/-- What one fetch yields. -/
abbrev Outcome := Except InventoryError Inventory

/-- What can be asked of a cache. -/
inductive CacheRequest where
  | get (now : Nat)
  | isFresh (now : Nat)
  | records
  | invalidate
deriving DecidableEq, Repr

/-- What came of a request. -/
inductive CacheEvent where
  /-- The inventory at a moment, and what the fetches for it yielded. -/
  | served (now : Nat) (result : Outcome) (outcomes : List Outcome)
  /-- Whether the inventory was fresh at a moment. -/
  | judged (now : Nat) (fresh : Bool)
  /-- The records of the last successful fetch. -/
  | shown (records : Inventory)
  | invalidated

/-- The source that also notes what each fetch yields, behind what it has noted before. -/
def Source.noted {σ : Type} (fetch : Source σ) : Source (σ × List Outcome) :=
  fun (source, notes) =>
    let (outcome, after) := fetch source
    (outcome, after, notes ++ [outcome])

/-- What the successful ones among some fetches brought. -/
def inventories (outcomes : List Outcome) : List Inventory :=
  outcomes.filterMap Except.toOption

namespace CacheEvent

/-- The request that an event is the answer to. -/
def request : CacheEvent → CacheRequest
  | served now _ _ => .get now
  | judged now _ => .isFresh now
  | shown _ => .records
  | invalidated => .invalidate

/-- What the successful fetches of an event brought. -/
def fetched : CacheEvent → List Inventory
  | served _ _ outcomes => inventories outcomes
  | _ => []

/-- Whether an inventory was served. -/
def isServed : CacheEvent → Bool
  | served _ (.ok _) _ => true
  | _ => false

end CacheEvent

/-- A cache and its source after some events. -/
structure CacheHistory (σ : Type) where
  cache : Cache
  source : σ
  events : List CacheEvent

namespace CacheHistory

variable {σ : Type}

/-- A cache that has not been asked for anything. -/
def start (cache : Cache) (source : σ) : CacheHistory σ :=
  ⟨cache, source, []⟩

/-- The history with one more request. -/
def step (fetch : Source σ) (history : CacheHistory σ) : CacheRequest → CacheHistory σ
  | .get now =>
    let served := history.cache.get fetch.noted now (history.source, [])
    let (source, outcomes) := served.source
    ⟨served.cache, source, history.events ++ [.served now served.result outcomes]⟩
  | .isFresh now =>
    { history with events := history.events ++ [.judged now (history.cache.isFreshAt now)] }
  | .records => { history with events := history.events ++ [.shown history.cache.records] }
  | .invalidate =>
    ⟨history.cache.invalidate, history.source, history.events ++ [.invalidated]⟩

/-- The history of requests to an empty cache, in their order. -/
def ofRequests (freshness : Duration) (retry : RetryPolicy) (fetch : Source σ) (source : σ)
    (requests : List CacheRequest) : CacheHistory σ :=
  requests.foldl (step fetch) (start (.empty freshness retry) source)

end CacheHistory

end Forklift
