import Forklift.Command.TokenStream

/-! # Readers side by side

A reader hands out the steps of a text. Readers can be copied wherever they stand; a copy starts from
there, and from then on each goes its own way. A stream is such a reader, and so is an index into a list
of steps.
-/

namespace Forklift

variable {σ τ : Type}

/-- What one kind of readers does when it is asked. -/
structure Reader (σ : Type) where
  /-- The next step, if one is left, and the reader afterwards. -/
  next : σ → Option Token × σ
  /-- All steps that are left, and the reader afterwards. -/
  rest : σ → List Token × σ
  /-- The reader back at its start. -/
  restart : σ → σ

/-- A stream of the steps of a text. -/
def TokenStream.reader : Reader TokenStream where
  next stream :=
    match stream.next? with
    | none => (none, stream)
    | some (token, after) => (some token, after)
  rest := drain
  restart := restart

namespace Reader

/-- An index into a list: the steps in front of it have been handed out. -/
def ofList (all : List Token) : Reader Nat where
  next index := (all[index]?, if index < all.length then index + 1 else index)
  rest index := (all.drop index, all.length)
  restart _ := 0

/-- What a reader can be asked for. -/
inductive Request where
  | next
  | rest
  | restart
  | copy
deriving DecidableEq, Repr

/-- A request to one of several readers. They are numbered from 0, in the order in which they came
about. -/
structure Call where
  place : Nat
  request : Request
deriving DecidableEq, Repr

/-- What a call is answered with. -/
inductive Reply where
  | step (token? : Option Token)
  | steps (tokens : List Token)
  | restarted
  /-- The number of the copy. -/
  | copied (place : Nat)
  /-- No reader has the number that was called. -/
  | absent
deriving DecidableEq, Repr

/-- One of the readers is asked. It changes at most itself, and a copy is put behind the others. -/
def ask (reader : Reader σ) (readers : List σ) (call : Call) : Reply × List σ :=
  match readers[call.place]? with
  | none => (.absent, readers)
  | some state =>
    match call.request with
    | .next => (.step (reader.next state).1, readers.set call.place (reader.next state).2)
    | .rest => (.steps (reader.rest state).1, readers.set call.place (reader.rest state).2)
    | .restart => (.restarted, readers.set call.place (reader.restart state))
    | .copy => (.copied readers.length, readers ++ [state])

/-- The replies to calls, in their order, and the readers afterwards. -/
def askAll (reader : Reader σ) (readers : List σ) : List Call → List Reply × List σ
  | [] => ([], readers)
  | call :: rest =>
    let (reply, after) := reader.ask readers call
    let (replies, last) := reader.askAll after rest
    (reply :: replies, last)

/-! ## Readers of two kinds -/

/-- Readers of one kind that stand for readers of another kind: whatever they are asked, they answer
the same and go on standing for each other. -/
structure StandsFor (reader : Reader σ) (other : Reader τ) (image : τ → σ) : Prop where
  next (state : τ) :
    reader.next (image state) = ((other.next state).1, image (other.next state).2)
  rest (state : τ) :
    reader.rest (image state) = ((other.rest state).1, image (other.rest state).2)
  restart (state : τ) : reader.restart (image state) = image (other.restart state)

variable {reader : Reader σ} {other : Reader τ} {image : τ → σ}

theorem StandsFor.ask (stands : StandsFor reader other image) (readers : List τ) (call : Call) :
    reader.ask (readers.map image) call =
      ((other.ask readers call).1, (other.ask readers call).2.map image) := by
  obtain ⟨place, request⟩ := call
  simp only [Reader.ask, List.getElem?_map]
  cases readers[place]? with
  | none => rfl
  | some state =>
    cases request with
    | next => simp only [Option.map_some, stands.next, List.map_set]
    | rest => simp only [Option.map_some, stands.rest, List.map_set]
    | restart => simp only [Option.map_some, stands.restart, List.map_set]
    | copy =>
      simp only [Option.map_some, List.length_map, List.map_append, List.map_cons, List.map_nil]

theorem StandsFor.askAll (stands : StandsFor reader other image) (readers : List τ)
    (calls : List Call) :
    reader.askAll (readers.map image) calls =
      ((other.askAll readers calls).1, (other.askAll readers calls).2.map image) := by
  induction calls generalizing readers with
  | nil => rfl
  | cons call rest ih => simp only [Reader.askAll, stands.ask, ih]

/-! ## Each on its own -/

variable (reader : Reader σ) {readers : List σ} {place : Nat}

/-- A call leaves the readers that it does not move where they are. -/
theorem getElem?_ask (inside : place < readers.length) {call : Call}
    (elsewhere : call.place = place → call.request = .copy) :
    place < (reader.ask readers call).2.length ∧
      (reader.ask readers call).2[place]? = readers[place]? := by
  obtain ⟨called, request⟩ := call
  simp only [ask]
  cases present : readers[called]? with
  | none => exact ⟨inside, rfl⟩
  | some state =>
    have behind : (readers ++ [state])[place]? = readers[place]? :=
      List.getElem?_append_left inside
    have longer : place < (readers ++ [state]).length := by
      rw [List.length_append]
      omega
    by_cases same : called = place
    · obtain rfl : request = .copy := elsewhere same
      exact ⟨longer, behind⟩
    · have kept (moved : σ) : (readers.set called moved)[place]? = readers[place]? :=
        List.getElem?_set_ne same
      cases request with
      | next => exact ⟨by rwa [List.length_set], kept _⟩
      | rest => exact ⟨by rwa [List.length_set], kept _⟩
      | restart => exact ⟨by rwa [List.length_set], kept _⟩
      | copy => exact ⟨longer, behind⟩

/-- Whatever other readers are asked, a reader stays where it is, also while it is copied. -/
theorem getElem?_askAll (inside : place < readers.length) {calls : List Call}
    (elsewhere : ∀ call ∈ calls, call.place = place → call.request = .copy) :
    (reader.askAll readers calls).2[place]? = readers[place]? := by
  induction calls generalizing readers with
  | nil => rfl
  | cons call rest ih =>
    obtain ⟨first, others⟩ := List.forall_mem_cons.1 elsewhere
    obtain ⟨still_inside, kept⟩ := reader.getElem?_ask inside first
    rw [askAll, ← kept]
    exact ih still_inside others

/-- A copy starts where its original stands, and the others stay where they are. -/
theorem askAll_copy {state : σ} (present : readers[place]? = some state) :
    reader.askAll readers [⟨place, .copy⟩] = ([.copied readers.length], readers ++ [state]) := by
  simp only [askAll, ask, present]

end Reader

end Forklift
