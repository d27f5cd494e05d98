import Forklift.Diagnostic.Basic

/-! # Labels

A label points at the place in a command that a finding is about. Its place is a range of bytes, but a
drawing counts its columns in characters, so in a command that is not plain ASCII a label may reach
beyond the last column. Then its text is not written, and far enough beyond it finds no place at all.
-/

namespace Forklift

namespace Diagnostic

/-- What is wrong with a step, as far as a context tells: the limit or the unit that it misses. -/
def reason (diagnostic : Diagnostic) (context : Context) : String :=
  match context.get? "max", context.get? "step" with
  | some max, _ => s!"over {max} degrees"
  | none, some step => s!"not a multiple of {step}"
  | none, none => diagnostic.message

/-- The text of a label. It names the step and its kind of motion where the context has them. -/
def labelText (diagnostic : Diagnostic) : String :=
  match diagnostic.context with
  | none => s!"{diagnostic.message} [{diagnostic.id}]"
  | some context =>
    let reason := diagnostic.reason context
    match context.get? "token", context.get? "class" with
    | some token, some motion => s!"{token}: {motion} step, {reason} [{diagnostic.id}]"
    | _, _ => s!"{reason} [{diagnostic.id}]"

end Diagnostic

namespace Terminal

/-- A range of a command, and what is said of it. -/
structure Label where
  place : Span
  text : String
deriving DecidableEq

namespace Label

/-- The part of a span that lies within a text of so many bytes. -/
def clamp (size : Nat) (span : Span) : Span where
  start := min span.start size
  stop := max (min span.stop size) (min span.start size)

/-- The label of an error that is about a place in a command. -/
def ofDiagnostic? (command : String) (diagnostic : Diagnostic) : Option Label :=
  if diagnostic.isError && !command.isEmpty then
    diagnostic.span.map fun span => ⟨clamp command.utf8ByteSize span, diagnostic.labelText⟩
  else none

/-- The labels of findings, in their order. -/
def ofDiagnostics (command : String) (diagnostics : List Diagnostic) : List Label :=
  diagnostics.filterMap (ofDiagnostic? command)

/-- Whether a label finds a place in a text of so many characters: both its start and its last
position have to be columns of the text or the one behind it. -/
def isPlaced (columns : Nat) (label : Label) : Bool :=
  label.place.start ≤ columns &&
    (label.place.isEmpty || label.place.stop - 1 ≤ columns)

/-- Whether a label lies within a text of so many characters, so that its text can be written. -/
def isWithin (columns : Nat) (label : Label) : Bool :=
  label.place.start ≤ columns && label.place.stop ≤ columns

/-- A label within the text has a place in it. -/
theorem isPlaced_of_isWithin {columns : Nat} {label : Label}
    (within : label.isWithin columns = true) : label.isPlaced columns = true := by
  simp only [isWithin, isPlaced, Bool.and_eq_true, Bool.or_eq_true, decide_eq_true_eq] at within ⊢
  exact ⟨within.1, .inr (Nat.le_trans (Nat.sub_le ..) within.2)⟩

end Label

end Terminal

end Forklift
