import Forklift.Diagnostic.Code
import Forklift.Diagnostic.Context
import Forklift.Diagnostic.Span

/-! # Diagnostics

A diagnostic is one finding about a command or a simulation: a code, how serious it is, a message,
and if it concerns a place in the command, the span of that place.
-/

namespace Forklift

/-- How serious a finding is. Only an error rejects a command. -/
inductive Severity where
  | error
  | warn
  | info
deriving DecidableEq, Repr

namespace Severity

def all : List Severity :=
  [error, warn, info]

def name : Severity → String
  | error => "error"
  | warn => "warn"
  | info => "info"

end Severity

/-- One finding. The identifier is free text, since findings are also read from outside. -/
structure Diagnostic where
  id : String
  severity : Severity
  message : String
  span : Option Span := none
  context : Option Context := none
deriving DecidableEq

namespace Diagnostic

/-- A finding that rejects the command. -/
def error (code : Code) (message : String) (span : Option Span := none)
    (context : Option Context := none) : Diagnostic :=
  ⟨code.id, .error, message, span, context⟩

/-- A remark that rejects nothing. -/
def info (code : Code) (message : String) : Diagnostic :=
  ⟨code.id, .info, message, none, none⟩

def isError (diagnostic : Diagnostic) : Bool :=
  diagnostic.severity = .error

/-- One line: severity, code and message. -/
def display (diagnostic : Diagnostic) : String :=
  s!"{diagnostic.severity.name}[{diagnostic.id}]: {diagnostic.message}"

/-- The same finding about a text that starts `offset` bytes further left. -/
def shift (offset : Nat) (diagnostic : Diagnostic) : Diagnostic :=
  { diagnostic with span := diagnostic.span.map (Span.shift offset) }

end Diagnostic

end Forklift
