import Forklift.Diagnostic.Basic
import Forklift.Json.Record
import Forklift.Json.Value

/-! # Diagnostics in JSON

A diagnostic is written as an object without the members that it lacks: an absent context differs
from an empty one. Reading accepts all that writing produces, and the other spellings of a record.
-/

namespace Forklift

namespace Span

def toJson (span : Span) : Json :=
  .object [("start", .nat span.start), ("end", .nat span.stop)]

/-- The span of a record; its ends need not be in order. -/
def ofTree? (tree : Json.Tree) : Option Span := do
  let [start, stop] ← tree.fields? ["start", "end"] | none
  return ⟨← (← start).nat64?, ← (← stop).nat64?⟩

end Span

namespace Severity

def toJson (severity : Severity) : Json :=
  .string severity.name

def ofTree? (tree : Json.Tree) : Option Severity := do
  let name ← tree.case?
  all.find? (·.name == name)

end Severity

namespace Context

def toJson (context : Context) : Json :=
  .object (context.entries.map fun (key, value) => (key, .string value))

/-- The map of an object of strings, of which the last one counts where a key is repeated. -/
def ofTree? : Json.Tree → Option Context
  | .object members =>
    (members.mapM entry?).map ofList
  | _ => none
where
  /-- The key and the text of a member, if both have one. -/
  entry? (member : Option String × Json.Tree) : Option (String × String) := do
    return (← member.1, ← member.2.text?)

end Context

namespace Diagnostic

def toJson (diagnostic : Diagnostic) : Json :=
  .objectOf [
    ("id", some (.string diagnostic.id)),
    ("severity", some diagnostic.severity.toJson),
    ("message", some (.string diagnostic.message)),
    ("span", diagnostic.span.map Span.toJson),
    ("context", diagnostic.context.map Context.toJson)]

def ofTree? (tree : Json.Tree) : Option Diagnostic := do
  let [id, severity, message, span, context] ←
    tree.fields? ["id", "severity", "message", "span", "context"] | none
  return {
    id := ← (← id).text?
    severity := ← Severity.ofTree? (← severity)
    message := ← (← message).text?
    span := ← Json.Tree.optional? Span.ofTree? span
    context := ← Json.Tree.optional? Context.ofTree? context }

end Diagnostic

end Forklift
