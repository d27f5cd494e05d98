import Forklift.Session.Basic

/-! # Histories

A history is what has happened in a session since it was new: the session as it is now, the reports
of its simulations and the notices that were sent. Each report sends its own notice and no other
operation sends one.
-/

namespace Forklift

/-- What can be done in a session. -/
inductive Operation where
  | select (modelNumber : String)
  | clearSelection
  | setCommand (text : String)
  | simulate (inventory : Inventory) (timestamp : Timestamp)
deriving DecidableEq, Repr

/-- A session and what it has told, oldest first. -/
structure History where
  session : Session
  reports : List Report
  notices : List Notice
deriving DecidableEq

namespace History

/-- A new session, in which nothing has happened. -/
def start : History :=
  ⟨.empty, [], []⟩

/-- The history in which one more operation has been done. -/
def step (history : History) : Operation → History
  | .select modelNumber => { history with session := history.session.select modelNumber }
  | .clearSelection => { history with session := history.session.clearSelection }
  | .setCommand text => { history with session := history.session.setCommand text }
  | .simulate inventory timestamp =>
    let simulated := history.session.simulate history.notices inventory timestamp
    ⟨simulated.session, history.reports ++ [simulated.report], simulated.notices⟩

/-- A simulation adds its report and its notice, and the session is what the run leaves. -/
theorem step_simulate (history : History) (inventory : Inventory) (timestamp : Timestamp) :
    history.step (.simulate inventory timestamp) =
      ⟨(history.session.run inventory timestamp).2,
        history.reports ++ [(history.session.run inventory timestamp).1],
        history.notices ++ [(history.session.run inventory timestamp).1.notice]⟩ := rfl

/-- The history of operations, done in their order. -/
def ofOperations (operations : List Operation) : History :=
  operations.foldl step start

@[simp] theorem ofOperations_nil : ofOperations [] = start := rfl

@[simp] theorem ofOperations_append (earlier later : List Operation) :
    ofOperations (earlier ++ later) = later.foldl step (ofOperations earlier) :=
  List.foldl_append

end History

/-- The sessions that can come about. A copy of a session is the same value and goes on alone. -/
def Session.Reachable (session : Session) : Prop :=
  ∃ operations, (History.ofOperations operations).session = session

end Forklift
