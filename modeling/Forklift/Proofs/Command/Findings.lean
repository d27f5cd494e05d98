import Forklift.Proofs.Command.LeftmostFault
import Forklift.Proofs.Command.Places
import Forklift.Proofs.Command.RefusedTurns

/-! # Where findings point

Whatever is found about a text points into it: the gate points at the character that it blames, and the
validation at the step that it refuses. No character is cut. A command that is rejected has a finding,
and all its findings are errors that point at a place in the command.
-/

namespace Forklift

open Step

namespace Span

/-- The places in a text: they end within it, and begin and end between its characters. -/
structure IsPlaceIn (text : String) (span : Span) : Prop where
  ordered : span.Ordered
  inside : span.stop ≤ text.utf8ByteSize
  start_isValid : (⟨span.start⟩ : String.Pos.Raw).IsValid text
  stop_isValid : (⟨span.stop⟩ : String.Pos.Raw).IsValid text

/-- A part of a text has a place in it. -/
theorem isPlaceIn_of_append {text : String} {front part back : List Char}
    (split : text.toList = front ++ (part ++ back)) :
    IsPlaceIn text ⟨Text.byteLength front, Text.byteLength front + Text.byteLength part⟩ := by
  have behind : text.toList = (front ++ part) ++ back := by rw [split, List.append_assoc]
  refine ⟨Nat.le_add_right _ _, ?_, Text.isValid_of_append split, ?_⟩
  · rw [← Text.byteLength_toList, behind, Text.byteLength_append, Text.byteLength_append]
    exact Nat.le_add_right _ _
  · rw [← Text.byteLength_append]
    exact Text.isValid_of_append behind

end Span

/-- Errors that point at a place in a text. -/
def Diagnostic.PointsInto (text : String) (finding : Diagnostic) : Prop :=
  finding.severity = .error ∧ ∃ span, finding.span = some span ∧ span.IsPlaceIn text

namespace Violation

theorem severity_diagnostic (violation : Violation) : violation.diagnostic.severity = .error := by
  cases violation <;> rfl

/-- The finding about a character points at the place of the character. -/
theorem pointsInto_blame {text : String} {front back : List Char} {c : Char}
    (around : text.toList = front ++ c :: back) :
    (blame c (Text.byteLength front)).diagnostic.PointsInto text := by
  have split : text.toList = front ++ ([c] ++ back) := around
  exact ⟨severity_diagnostic _, _, span_diagnostic_blame c _, Span.isPlaceIn_of_append split⟩

/-- The finding of the gate points at the fault, or at the start of an empty text. -/
theorem pointsInto_of_first? {text : String} {violation : Violation}
    (found : first? text = some violation) : violation.diagnostic.PointsInto text := by
  rcases isLeftmost_of_first? found with ⟨nothing, rfl⟩ | ⟨steps, c, back, split, -, rfl⟩
  · have around : text.toList = [] ++ ([] ++ []) := nothing
    exact ⟨rfl, _, rfl, Span.isPlaceIn_of_append around⟩
  · exact pointsInto_blame split

end Violation

namespace Token

/-- A step that is found in a text has its place there. -/
theorem isPlaceIn_of_mem {text : String} {token : Token} (member : token ∈ tokens text) :
    token.span.IsPlaceIn text := by
  obtain ⟨front, letter, digits, back, split, direction, -, span⟩ := isCutFrom_of_mem member
  have around : text.toList = front ++ ((letter :: digits) ++ back) := split
  have size : Text.byteLength (letter :: digits) = 1 + Text.byteLength digits := by
    rw [Text.byteLength_cons, Direction.utf8Size_of_ofLetter? direction]
  have place := Span.isPlaceIn_of_append around
  rw [size, ← Nat.add_assoc] at place
  rw [span, Nat.zero_add]
  exact place

theorem severity_of_issue? {token : Token} {finding : Diagnostic}
    (found : token.issue? = some finding) : finding.severity = .error := by
  obtain ⟨fault, -, rfl⟩ := Option.map_eq_some_iff.1 found
  cases fault <;> rfl

end Token

/-- The findings of the validation point at the steps that they are about. -/
theorem Validation.exists_token_of_mem_issues {tokens : List Token} {finding : Diagnostic}
    (member : finding ∈ (validate tokens).issues) :
    finding.severity = .error ∧ ∃ token ∈ tokens, finding.span = some token.span := by
  rw [issues_validate] at member
  obtain ⟨token, inside, found⟩ := List.mem_filterMap.1 member
  exact ⟨Token.severity_of_issue? found, token, inside, Token.span_of_issue? found⟩

theorem Validation.pointsInto_of_mem_issues {text : String} {finding : Diagnostic}
    (member : finding ∈ (validate (tokens text)).issues) : finding.PointsInto text := by
  obtain ⟨severity, token, inside, span⟩ := exists_token_of_mem_issues member
  exact ⟨severity, token.span, span, Token.isPlaceIn_of_mem inside⟩

/-- A command that is rejected has a finding, and every one of them is an error about a place in it. -/
theorem findings_of_rejected {command : String} {reason : Rejection} {diagnostics : List Diagnostic}
    (meaning : interpret command = .rejected reason diagnostics) :
    diagnostics ≠ [] ∧ ∀ finding ∈ diagnostics, finding.PointsInto command := by
  have refused : (interpret command).ok = false := by rw [meaning]; rfl
  have some_finding := (findings_of_not_ok refused).2
  rw [meaning] at some_finding
  refine ⟨some_finding, ?_⟩
  by_cases passed : WellFormed command
  · obtain ⟨steps, spelled⟩ := wellFormed_iff.1 passed
    have found := spelled.diagnostics_eq
    rw [meaning] at found
    intro finding member
    exact Validation.pointsInto_of_mem_issues (found ▸ member)
  · obtain ⟨violation, found, alone⟩ := interpret_of_not_wellFormed passed
    rw [meaning] at alone
    obtain ⟨-, rfl⟩ := Interpretation.rejected.inj alone
    exact List.forall_mem_singleton.2 (Violation.pointsInto_of_first? found)

end Forklift
