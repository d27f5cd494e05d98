import Forklift.Session.History

/-! # Sessions side by side

Sessions can be copied at any time. A copy starts as the session that it was made of, and from then on
each goes its own way: what is done in one session leaves the others as they are.
-/

namespace Forklift

/-- The session in which one more operation has been done. -/
def Session.apply (session : Session) (operation : Operation) : Session :=
  (History.step ⟨session, [], []⟩ operation).session

theorem History.session_step (history : History) (operation : Operation) :
    (history.step operation).session = history.session.apply operation := by
  cases operation <;> rfl

/-- What can be done where sessions are side by side. They are numbered from 0, in the order in which
they came about. -/
inductive Move where
  | operate (place : Nat) (operation : Operation)
  | copy (place : Nat)
deriving DecidableEq, Repr

namespace Workplace

/-- The sessions after one more move. A copy is put behind the others. -/
def step (sessions : List Session) : Move → List Session
  | .operate place operation => sessions.modify place (·.apply operation)
  | .copy place => sessions ++ sessions[place]?.toList

/-- The sessions after some moves, of which the first one finds one new session. -/
def ofMoves (moves : List Move) : List Session :=
  moves.foldl step [.empty]

theorem ofMoves_append (earlier later : List Move) :
    ofMoves (earlier ++ later) = later.foldl step (ofMoves earlier) :=
  List.foldl_append

/-- What holds of a session and of all that operations make of it, holds wherever a move leads. -/
theorem forall_mem_step {property : Session → Prop}
    (kept : ∀ session operation, property session → property (session.apply operation))
    {sessions : List Session} (held : ∀ session ∈ sessions, property session) (move : Move) :
    ∀ session ∈ step sessions move, property session := by
  intro session member
  cases move with
  | operate place operation =>
    obtain ⟨i, found⟩ := List.mem_iff_getElem?.mp member
    rw [step, List.getElem?_modify, Option.map_eq_map, Option.map_eq_some_iff] at found
    obtain ⟨before, here, rfl⟩ := found
    have earlier : property before := held before (List.mem_of_getElem? here)
    split
    · exact kept before operation earlier
    · exact earlier
  | copy place =>
    obtain old | new := List.mem_append.mp member
    · exact held session old
    · rw [Option.mem_toList] at new
      exact held session (List.mem_of_getElem? new)

theorem forall_mem_ofMoves {property : Session → Prop} (start : property .empty)
    (kept : ∀ session operation, property session → property (session.apply operation))
    (moves : List Move) : ∀ session ∈ ofMoves moves, property session := by
  have led {sessions : List Session} (held : ∀ session ∈ sessions, property session) :
      ∀ session ∈ moves.foldl step sessions, property session := by
    induction moves generalizing sessions with
    | nil => exact held
    | cons move rest ih => exact ih (forall_mem_step kept held move)
  apply led
  intro session member
  rw [List.mem_singleton.mp member]
  exact start

/-- A session stays in its place, and a move changes it at most by an operation. -/
theorem getElem?_step {sessions : List Session} {place : Nat} {session : Session}
    (here : sessions[place]? = some session) (move : Move) :
    (step sessions move)[place]? = some session ∨
      ∃ operation, (step sessions move)[place]? = some (session.apply operation) := by
  cases move with
  | operate other operation =>
    rw [step, List.getElem?_modify, here]
    by_cases same : other = place
    · exact .inr ⟨operation, by simp [same]⟩
    · exact .inl (by simp [same])
  | copy other =>
    have inside : place < sessions.length := (List.getElem?_eq_some_iff.mp here).1
    rw [step, List.getElem?_append_left inside]
    exact .inl here

end Workplace

end Forklift
