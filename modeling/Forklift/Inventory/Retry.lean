import Forklift.Inventory.Backoff
import Forklift.Inventory.File

/-! # Repeated fetches

A fetch is attempted until it succeeds, fails for good or has been attempted often enough. A run of
attempts tells what came of it, in what state it left the source, and how long it waited after each
attempt but the last.
-/

namespace Forklift

/-- A source of inventories: what a fetch in a state yields, and the state after it. -/
abbrev Source (σ : Type) := σ → Except InventoryError Inventory × σ

/-- A file as a source: each fetch reads it anew and changes nothing. -/
def Source.ofFile (path : String) : Source FileView :=
  fun files => (Inventory.importFile files path, files)

/-- What came of a run of attempts. -/
structure Fetched (σ : Type) where
  result : Except InventoryError Inventory
  source : σ
  /-- How many fetches were made. -/
  fetches : Nat
  /-- The waits between them, in their order. -/
  waits : List Duration

namespace RetryPolicy

variable {σ : Type}

/-- Makes the attempt of a number and up to `further` more. The waits before it are given last
first. -/
def attempts (policy : RetryPolicy) (fetch : Source σ) (attempt : Nat) (waits : List Duration) :
    (further : Nat) → σ → Fetched σ
  | further, source =>
    match fetch source with
    | (.ok records, after) => ⟨.ok records, after, attempt + 1, waits.reverse⟩
    | (.error error, after) =>
      if !error.retryable then ⟨.error error, after, attempt + 1, waits.reverse⟩
      else
        match further with
        | 0 =>
          ⟨.error (.retriesExhausted policy.maxAttempts error), after, attempt + 1, waits.reverse⟩
        | further + 1 =>
          policy.attempts fetch (attempt + 1) (policy.delay attempt :: waits) further after

/-- Fetches under a policy; settings that allow no attempt are an error of their own. -/
def fetch (policy : RetryPolicy) (fetch : Source σ) (source : σ) : Fetched σ :=
  match policy.maxAttempts with
  | 0 => ⟨.error .invalidConfig, source, 0, []⟩
  | further + 1 => policy.attempts fetch 0 [] further source

end RetryPolicy

end Forklift
