import Forklift.Proofs.Inventory.Noted

/-! # What a cache serves

Whatever a cache is asked, what it holds is the inventory of the last successful fetch of its
history, with the moment of that fetch and whether it has been marked as out of date since. So an
inventory is served from a fetch for the same request, or from an earlier one within the freshness
and with no mark after it.
-/

namespace Forklift

variable {σ : Type}

/-- Of two places in a list that hold different things, one is behind the other. -/
theorem mem_or_mem_of_append_cons_eq {α : Type} {before later before' later' : List α} {x y : α}
    (same : before ++ x :: later = before' ++ y :: later') (different : x ≠ y) :
    x ∈ later' ∨ y ∈ later := by
  obtain ⟨between, rfl, rest⟩ | ⟨between, rfl, rest⟩ := List.append_eq_append_iff.mp same
  · cases between with
    | nil => exact absurd (List.cons.inj rest).1 different
    | cons head tail =>
      obtain ⟨rfl, rfl⟩ := List.cons.inj rest
      exact .inr (List.mem_append_right tail List.mem_cons_self)
  · cases between with
    | nil => exact absurd (List.cons.inj rest).1.symm different
    | cons head tail =>
      obtain ⟨rfl, rfl⟩ := List.cons.inj rest
      exact .inl (List.mem_append_right tail List.mem_cons_self)

theorem unfetched_append {events : List CacheEvent} {event : CacheEvent}
    (unfetched : ∀ other ∈ events, other.fetched = []) (quiet : event.fetched = []) :
    ∀ other ∈ events ++ [event], other.fetched = [] := by
  intro other member
  rw [List.mem_append, List.mem_singleton] at member
  obtain member | rfl := member
  · exact unfetched other member
  · exact quiet

/-- The events tell of a fetch of the records at the moment, with some events since and no success
among those. -/
def LastFetched (events : List CacheEvent) (moment : Nat) (records : Inventory)
    (since : List CacheEvent) : Prop :=
  ∃ earlier outcomes, events = earlier ++ .served moment (.ok records) outcomes :: since ∧
    inventories outcomes = [records] ∧ ∀ event ∈ since, event.fetched = []

namespace LastFetched

variable {events since : List CacheEvent} {moment : Nat} {records : Inventory}

theorem of_served {outcomes : List Outcome} (brought : inventories outcomes = [records])
    (events : List CacheEvent) (moment : Nat) :
    LastFetched (events ++ [.served moment (.ok records) outcomes]) moment records [] := by
  refine ⟨events, outcomes, rfl, brought, ?_⟩
  intro event member
  cases member

theorem append (last : LastFetched events moment records since) {event : CacheEvent}
    (quiet : event.fetched = []) :
    LastFetched (events ++ [event]) moment records (since ++ [event]) := by
  obtain ⟨earlier, outcomes, rfl, brought, unfetched⟩ := last
  refine ⟨earlier, outcomes, ?_, brought, unfetched_append unfetched quiet⟩
  rw [List.append_assoc, List.cons_append]

/-- The records are what the last success of all events brought. -/
theorem getLast?_fetched (last : LastFetched events moment records since) :
    (events.flatMap CacheEvent.fetched).getLast? = some records := by
  obtain ⟨earlier, outcomes, rfl, brought, unfetched⟩ := last
  have nothing : since.flatMap CacheEvent.fetched = [] := List.flatMap_eq_nil_iff.mpr unfetched
  have fetched : CacheEvent.fetched (.served moment (.ok records) outcomes) = [records] := brought
  rw [List.flatMap_append, List.flatMap_cons, nothing, fetched, List.append_nil]
  exact List.getLast?_concat

/-- Where nothing was served after a mark, the mark is behind the last success. -/
theorem invalidated_mem (last : LastFetched events moment records since)
    {earlier later : List CacheEvent} (split : events = earlier ++ .invalidated :: later)
    (unserved : ∀ event ∈ later, event.isServed = false) : .invalidated ∈ since := by
  obtain ⟨before, outcomes, same, -, -⟩ := last
  obtain served | marked := mem_or_mem_of_append_cons_eq (same.symm.trans split) nofun
  · cases unserved _ served
  · exact marked

end LastFetched

namespace CacheHistory

theorem step_get (fetch : Source σ) (history : CacheHistory σ) (now : Nat) :
    let plain := history.cache.get fetch now history.source
    ∃ outcomes, history.step fetch (.get now) =
        ⟨plain.cache, plain.source, history.events ++ [.served now plain.result outcomes]⟩ ∧
      plain.fetches = outcomes.length ∧ inventories outcomes =
        if history.cache.isFreshAt now then [] else plain.result.toOption.toList := by
  obtain ⟨outcomes, noted, counted, brought⟩ := history.cache.get_noted fetch now history.source
  refine ⟨outcomes, ?_, counted, brought⟩
  simp only [step, noted]

/-- What a cache holds is told by its history: before any success it holds nothing, and afterwards it
holds the last one, marked as out of date if it was so marked since. -/
def Tracks (history : CacheHistory σ) : Prop :=
  match history.cache.snapshot? with
  | none => ∀ event ∈ history.events, event.fetched = []
  | some snapshot => ∃ since,
      LastFetched history.events snapshot.fetchedAt snapshot.records since ∧
        (snapshot.invalidated = true ↔ .invalidated ∈ since)

theorem tracks_start (cache : Cache) (source : σ) (unfetched : cache.snapshot? = none) :
    (start cache source).Tracks := by
  simp only [Tracks, start, unfetched]
  intro event member
  cases member

/-- An event that fetches nothing and marks nothing leaves what the cache holds as it was. -/
theorem Tracks.append {history : CacheHistory σ} (tracks : history.Tracks) (event : CacheEvent)
    (quiet : event.fetched = []) (unmarked : event ≠ .invalidated) (source : σ) :
    (⟨history.cache, source, history.events ++ [event]⟩ : CacheHistory σ).Tracks := by
  unfold Tracks at tracks ⊢
  cases held : history.cache.snapshot? with
  | none =>
    simp only [held] at tracks ⊢
    exact unfetched_append tracks quiet
  | some snapshot =>
    simp only [held] at tracks ⊢
    obtain ⟨since, last, marked⟩ := tracks
    refine ⟨since ++ [event], last.append quiet, ?_⟩
    rw [marked, List.mem_append, List.mem_singleton]
    constructor
    · exact .inl
    · rintro (member | same)
      · exact member
      · exact absurd same.symm unmarked

theorem Tracks.get {history : CacheHistory σ} (tracks : history.Tracks) (fetch : Source σ)
    (now : Nat) : (history.step fetch (.get now)).Tracks := by
  obtain ⟨outcomes, stepped, -, brought⟩ := history.step_get fetch now
  rw [stepped]
  cases fresh : history.cache.isFreshAt now with
  | true =>
    rw [fresh] at brought
    rw [Cache.get_of_fresh fresh]
    exact tracks.append (.served now _ outcomes) brought nofun history.source
  | false =>
    rw [fresh] at brought
    cases result : (history.cache.retry.fetch fetch history.source).result with
    | ok records =>
      rw [Cache.get_of_fetched fresh result] at brought ⊢
      exact ⟨[], .of_served brought history.events now, nofun, nofun⟩
    | error error =>
      rw [Cache.get_of_failed fresh result] at brought ⊢
      exact tracks.append (.served now _ outcomes) brought nofun _

theorem Tracks.invalidate {history : CacheHistory σ} (tracks : history.Tracks)
    (fetch : Source σ) : (history.step fetch .invalidate).Tracks := by
  unfold Tracks at tracks ⊢
  cases held : history.cache.snapshot? with
  | none =>
    simp only [held] at tracks
    simp only [step, Cache.invalidate, held, Option.map_none]
    exact unfetched_append tracks rfl
  | some snapshot =>
    simp only [held] at tracks
    obtain ⟨since, last, -⟩ := tracks
    simp only [step, Cache.invalidate, held, Option.map_some]
    refine ⟨since ++ [.invalidated], last.append rfl, ?_⟩
    exact iff_of_true trivial (List.mem_append_right since List.mem_cons_self)

theorem Tracks.step {history : CacheHistory σ} (tracks : history.Tracks) (fetch : Source σ)
    (request : CacheRequest) : (history.step fetch request).Tracks := by
  cases request with
  | get now => exact tracks.get fetch now
  | isFresh now => exact tracks.append (.judged now _) rfl nofun history.source
  | records => exact tracks.append (.shown _) rfl nofun history.source
  | invalidate => exact tracks.invalidate fetch

/-- A request changes no setting of the cache. -/
theorem exists_cache_step (fetch : Source σ) (history : CacheHistory σ) (request : CacheRequest) :
    ∃ snapshot?, (history.step fetch request).cache = { history.cache with snapshot? } := by
  cases request with
  | get now =>
    obtain ⟨outcomes, stepped, -⟩ := history.step_get fetch now
    rw [stepped]
    exact Cache.exists_cache_get history.cache fetch now history.source
  | _ => exact ⟨_, rfl⟩

/-- Each request is answered by one event. -/
theorem request_step (fetch : Source σ) (history : CacheHistory σ) (request : CacheRequest) :
    (history.step fetch request).events.map CacheEvent.request =
      history.events.map CacheEvent.request ++ [request] := by
  cases request with
  | get now =>
    obtain ⟨outcomes, stepped, -⟩ := history.step_get fetch now
    rw [stepped, List.map_append]
    rfl
  | _ => exact List.map_append

/-- A history is what its requests make of it: it tracks what the cache holds, keeps the settings, and
has an event for each of them. -/
theorem foldl_step {history : CacheHistory σ} (tracks : history.Tracks) (fetch : Source σ)
    (requests : List CacheRequest) :
    let after := requests.foldl (step fetch) history
    after.Tracks ∧ (∃ snapshot?, after.cache = { history.cache with snapshot? }) ∧
      after.events.map CacheEvent.request = history.events.map CacheEvent.request ++ requests := by
  induction requests generalizing history with
  | nil => exact ⟨tracks, ⟨history.cache.snapshot?, rfl⟩, (List.append_nil _).symm⟩
  | cons request rest ih =>
    obtain ⟨tracked, ⟨snapshot?, settings⟩, answered⟩ := ih (tracks.step fetch request)
    obtain ⟨_, kept⟩ := exists_cache_step fetch history request
    refine ⟨tracked, ⟨snapshot?, ?_⟩, ?_⟩
    · rw [kept] at settings
      exact settings
    · rw [request_step, List.append_assoc] at answered
      exact answered

section OfRequests

variable (freshness : Duration) (retry : RetryPolicy) (fetch : Source σ) (source : σ)
  (requests : List CacheRequest)

theorem ofRequests_append (more : List CacheRequest) :
    ofRequests freshness retry fetch source (requests ++ more) =
      more.foldl (step fetch) (ofRequests freshness retry fetch source requests) :=
  List.foldl_append

theorem tracks_ofRequests : (ofRequests freshness retry fetch source requests).Tracks :=
  (foldl_step (tracks_start (.empty freshness retry) source rfl) fetch requests).1

theorem exists_cache_ofRequests :
    ∃ snapshot?, (ofRequests freshness retry fetch source requests).cache =
      ⟨freshness, retry, snapshot?⟩ :=
  (foldl_step (tracks_start (.empty freshness retry) source rfl) fetch requests).2.1

theorem freshness_ofRequests :
    (ofRequests freshness retry fetch source requests).cache.freshness = freshness := by
  obtain ⟨snapshot?, settings⟩ := exists_cache_ofRequests freshness retry fetch source requests
  rw [settings]

theorem request_ofRequests :
    (ofRequests freshness retry fetch source requests).events.map CacheEvent.request = requests :=
  (foldl_step (tracks_start (.empty freshness retry) source rfl) fetch requests).2.2

end OfRequests

/-- What a fresh cache holds was fetched within the freshness, and not marked since. -/
theorem Tracks.of_fresh {history : CacheHistory σ} (tracks : history.Tracks) {now : Nat}
    (fresh : history.cache.isFreshAt now = true) :
    ∃ moment since, LastFetched history.events moment history.cache.records since ∧
      .invalidated ∉ since ∧
      max ((now : Int) - moment) 0 < history.cache.freshness.nanoseconds := by
  obtain ⟨snapshot, held, unmarked, recent⟩ := Cache.isFreshAt_iff.mp fresh
  simp only [Tracks, held] at tracks
  obtain ⟨since, last, marked⟩ := tracks
  have records : history.cache.records = snapshot.records := by
    simp only [Cache.records, held, Option.map_some, Option.getD_some]
  refine ⟨snapshot.fetchedAt, since, ?_, ?_, ?_⟩
  · rw [records]
    exact last
  · intro member
    rw [← marked, unmarked] at member
    cases member
  · omega

/-- Whenever a cache serves an inventory, it is what the last successful fetch brought. That fetch
was made for this very request, or for an earlier one within the freshness and with no mark since.
In particular the first inventory served after a mark is fetched for its request, however many
requests failed in between, and so is every one where nothing is fresh. -/
theorem served_from_last_fetch (freshness : Duration) (retry : RetryPolicy) (fetch : Source σ)
    (source : σ) (requests : List CacheRequest) (now : Nat) (records : Inventory)
    (served : ((ofRequests freshness retry fetch source requests).cache.get fetch now
      (ofRequests freshness retry fetch source requests).source).result = .ok records) :
    let before := ofRequests freshness retry fetch source requests
    let after := ofRequests freshness retry fetch source (requests ++ [.get now])
    before.events.map CacheEvent.request = requests ∧
    ∃ outcomes, after.events = before.events ++ [.served now (.ok records) outcomes] ∧
      (before.cache.get fetch now before.source).fetches = outcomes.length ∧
      (after.events.flatMap CacheEvent.fetched).getLast? = some records ∧
      (inventories outcomes = [records] ∨
        outcomes = [] ∧ ∃ moment since, LastFetched before.events moment records since ∧
          .invalidated ∉ since ∧ max ((now : Int) - moment) 0 < freshness.nanoseconds) ∧
      (∀ earlier since, before.events = earlier ++ .invalidated :: since →
        (∀ event ∈ since, event.isServed = false) → inventories outcomes = [records]) ∧
      (freshness.nanoseconds = 0 → inventories outcomes = [records]) := by
  intro before after
  have tracks : before.Tracks := tracks_ofRequests freshness retry fetch source requests
  have window : before.cache.freshness = freshness :=
    freshness_ofRequests freshness retry fetch source requests
  have stepped : after = before.step fetch (.get now) :=
    ofRequests_append freshness retry fetch source requests [.get now]
  refine ⟨request_ofRequests freshness retry fetch source requests, ?_⟩
  obtain ⟨outcomes, answered, counted, brought⟩ := before.step_get fetch now
  have events : after.events = before.events ++ [.served now (.ok records) outcomes] := by
    rw [stepped, answered, served]
  refine ⟨outcomes, events, counted, ?_⟩
  rw [served] at brought
  cases fresh : before.cache.isFreshAt now with
  | false =>
    have fetched : inventories outcomes = [records] := by
      rw [fresh] at brought
      exact brought
    refine ⟨?_, .inl fetched, fun _ _ _ _ => fetched, fun _ => fetched⟩
    rw [events]
    exact (LastFetched.of_served fetched before.events now).getLast?_fetched
  | true =>
    obtain ⟨moment, since, last, unmarked, recent⟩ := tracks.of_fresh fresh
    rw [Cache.get_of_fresh fresh] at counted served
    have held : before.cache.records = records := Except.ok.inj served
    have unfetched : outcomes = [] := List.length_eq_zero_iff.mp counted.symm
    rw [held] at last
    rw [window] at recent
    refine ⟨?_, .inr ⟨unfetched, moment, since, last, unmarked, recent⟩, ?_, ?_⟩
    · rw [events, unfetched]
      exact (last.append rfl).getLast?_fetched
    · intro earlier later split unserved
      exact absurd (last.invalidated_mem split unserved) unmarked
    · intro instant
      omega

/-- After a mark and a failure, the next inventory served is fetched for its request, although the
cache still holds one from a later moment. -/
theorem served_after_mark_and_failure :
    let forklift : Equipment := ⟨"T20", "T20-1", "2020-01-01"⟩
    let outcomes : List Outcome := [.ok [], .error .notAnArray, .ok [forklift]]
    let fetch : Source (List Outcome) := fun rest => (rest.headD (.error .invalidConfig), rest.tail)
    let history := ofRequests Cache.standardFreshness .standard fetch outcomes
    let before := history [.get 7, .get 9, .invalidate, .get 8]
    (before.cache.get fetch 5 before.source).result = .ok [forklift] ∧
      ∃ fetched, inventories fetched = [[forklift]] ∧
        (history [.get 7, .get 9, .invalidate, .get 8, .get 5]).events =
          before.events ++ [.served 5 (.ok [forklift]) fetched] := by
  intro forklift outcomes fetch history before
  have served : (before.cache.get fetch 5 before.source).result = .ok [forklift] := by rfl
  obtain ⟨-, fetched, events, -, -, -, first, -⟩ :=
    served_from_last_fetch _ _ fetch outcomes [.get 7, .get 9, .invalidate, .get 8] 5 _ served
  refine ⟨served, fetched, ?_, events⟩
  refine first [.served 7 (.ok []) [.ok []], .served 9 (.ok []) []]
    [.served 8 (.error .notAnArray) [.error .notAnArray]] rfl ?_
  intro event member
  rw [List.mem_singleton] at member
  rw [member]
  rfl

end CacheHistory

end Forklift
