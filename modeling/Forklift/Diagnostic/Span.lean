/-! # Spans

A span is a half-open range of byte offsets into a command text. A span that is built here is in
order; one that is read from outside may be reversed, so the order is a predicate and not a field.
-/

namespace Forklift

/-- The byte offsets from `start` up to but excluding `stop`. -/
structure Span where
  start : Nat
  stop : Nat
deriving DecidableEq, Repr

/-- The bounds of a range whose end lies before its start. -/
structure ReversedSpan where
  start : Nat
  stop : Nat
deriving DecidableEq, Repr

/-- The wording for a reversed range names the end first. -/
def ReversedSpan.message (bounds : ReversedSpan) : String :=
  s!"Span end ({bounds.stop}) < start ({bounds.start})"

namespace Span

/-- A span is ordered when it does not end before it starts. -/
def Ordered (span : Span) : Prop :=
  span.start ≤ span.stop

instance (span : Span) : Decidable span.Ordered :=
  inferInstanceAs (Decidable (span.start ≤ span.stop))

/-- The span between two offsets, which must be in order. -/
def between (start stop : Nat) : Except ReversedSpan Span :=
  if start ≤ stop then .ok ⟨start, stop⟩ else .error ⟨start, stop⟩

/-- The span that covers nothing at an offset. -/
def emptyAt (offset : Nat) : Span :=
  ⟨offset, offset⟩

/-- The number of bytes that an ordered span covers. -/
def length (span : Span) : Nat :=
  span.stop - span.start

def isEmpty (span : Span) : Bool :=
  span.start == span.stop

/-- The length as a difference of unsigned numbers, which there is not below zero. -/
def length? (span : Span) : Option Nat :=
  if span.stop < span.start then none else some (span.stop - span.start)

/-- The same range counted from `offset` bytes further left. -/
def shift (offset : Nat) (span : Span) : Span :=
  ⟨offset + span.start, offset + span.stop⟩

theorem between_eq_ok_iff {start stop : Nat} {span : Span} :
    between start stop = .ok span ↔ span = ⟨start, stop⟩ ∧ span.Ordered := by
  unfold between
  split
  · rename_i ordered
    rw [Except.ok.injEq, eq_comm, iff_self_and]
    rintro rfl
    exact ordered
  · rename_i reversed
    apply iff_of_false nofun
    rintro ⟨rfl, ordered⟩
    exact reversed ordered

theorem length?_of_ordered {span : Span} (ordered : span.Ordered) :
    span.length? = some span.length :=
  if_neg (Nat.not_lt.2 ordered)

theorem length?_of_not_ordered {span : Span} (reversed : ¬ span.Ordered) : span.length? = none :=
  if_pos (Nat.not_le.1 reversed)

theorem start_add_length {span : Span} (ordered : span.Ordered) :
    span.start + span.length = span.stop :=
  Nat.add_sub_of_le ordered

theorem isEmpty_iff {span : Span} (ordered : span.Ordered) :
    span.isEmpty = true ↔ span.length = 0 := by
  have covered := start_add_length ordered
  rw [isEmpty, beq_iff_eq]
  omega

end Span

end Forklift
