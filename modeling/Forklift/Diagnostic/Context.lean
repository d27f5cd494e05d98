/-! # Diagnostic contexts

A context maps short descriptors to text, for tools that read diagnostics. Its entries are kept in
the order of their keys, so that equal maps are equal values and are written alike.
-/

namespace Forklift

/-- A finite map from text to text, held in ascending order of its keys. -/
structure Context where
  entries : List (String × String)
  ordered : entries.Pairwise (·.1 < ·.1)
deriving DecidableEq

namespace Context

def empty : Context :=
  ⟨[], .nil⟩

/-- What a key is mapped to. -/
def get? (context : Context) (key : String) : Option String :=
  context.entries.lookup key

/-- Puts an entry in its place; an entry with the same key gives way. -/
def insertEntry (key value : String) : List (String × String) → List (String × String)
  | [] => [(key, value)]
  | (k, v) :: rest =>
    if key < k then (key, value) :: (k, v) :: rest
    else if key = k then (key, value) :: rest
    else (k, v) :: insertEntry key value rest

theorem mem_insertEntry {key value : String} {entries : List (String × String)}
    {entry : String × String} (mem : entry ∈ insertEntry key value entries) :
    entry = (key, value) ∨ entry ∈ entries := by
  induction entries with
  | nil => simpa [insertEntry] using mem
  | cons head rest ih =>
    obtain ⟨k, v⟩ := head
    simp only [insertEntry] at mem
    split at mem
    · simpa using mem
    · split at mem
      · simp only [List.mem_cons] at mem ⊢
        rcases mem with here | there
        · exact .inl here
        · exact .inr (.inr there)
      · simp only [List.mem_cons] at mem ⊢
        rcases mem with here | there
        · exact .inr (.inl here)
        · exact (ih there).imp id .inr

theorem pairwise_insertEntry {key value : String} {entries : List (String × String)}
    (ordered : entries.Pairwise (·.1 < ·.1)) :
    (insertEntry key value entries).Pairwise (·.1 < ·.1) := by
  induction entries with
  | nil => simp [insertEntry]
  | cons head rest ih =>
    obtain ⟨k, v⟩ := head
    obtain ⟨below, rest_ordered⟩ := List.pairwise_cons.1 ordered
    simp only [insertEntry]
    split
    · rename_i before
      refine List.pairwise_cons.2 ⟨?_, ordered⟩
      intro entry mem
      rcases List.mem_cons.1 mem with rfl | mem
      · exact before
      · exact String.lt_trans before (below entry mem)
    · rename_i notBefore
      split
      · rename_i same
        subst same
        exact List.pairwise_cons.2 ⟨below, rest_ordered⟩
      · rename_i other
        refine List.pairwise_cons.2 ⟨?_, ih rest_ordered⟩
        intro entry mem
        rcases mem_insertEntry mem with rfl | mem
        · exact Std.lt_of_le_of_ne (Std.not_lt.1 notBefore) (Ne.symm other)
        · exact below entry mem

/-- Maps `key` to `value`, in place of what it was mapped to before. -/
def insert (context : Context) (key value : String) : Context :=
  ⟨insertEntry key value context.entries, pairwise_insertEntry context.ordered⟩

/-- The map with the given entries, of which the last one counts where a key is repeated. -/
def ofList (entries : List (String × String)) : Context :=
  entries.foldl (fun context (key, value) => context.insert key value) empty

private theorem lookup_cons_eq (key value sought : String) (entries : List (String × String)) :
    List.lookup sought ((key, value) :: entries) =
      if sought = key then some value else entries.lookup sought := by
  rw [List.lookup_cons]
  by_cases here : sought = key
  · rw [beq_iff_eq.2 here, if_pos here]
  · rw [beq_eq_false_iff_ne.2 here, if_neg here]

theorem lookup_insertEntry (key value sought : String) (entries : List (String × String)) :
    (insertEntry key value entries).lookup sought =
      if sought = key then some value else entries.lookup sought := by
  induction entries with
  | nil => exact lookup_cons_eq key value sought []
  | cons head rest ih =>
    obtain ⟨k, v⟩ := head
    simp only [insertEntry]
    split
    · exact lookup_cons_eq key value sought ((k, v) :: rest)
    · split
      · rename_i same
        subst same
        simp only [lookup_cons_eq]
        split <;> rfl
      · rename_i other
        simp only [lookup_cons_eq, ih]
        by_cases here : sought = key
        · subst here
          rw [if_neg other, if_pos rfl, if_pos rfl]
        · rw [if_neg here, if_neg here]

/-- What is put under a key is found under it, and what is under other keys stays. -/
theorem get?_insert (context : Context) (key value sought : String) :
    (context.insert key value).get? sought =
      if sought = key then some value else context.get? sought :=
  lookup_insertEntry key value sought context.entries

end Context

end Forklift
