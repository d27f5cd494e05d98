import Forklift.Proofs.Command.Findings
import Forklift.Proofs.Diagnostic.ReadBack

/-! # Where spans come from

Every span that is computed is in order: one between two offsets, which is refused if they are not, an
empty one, and those of the gate, of the steps of a text and of the findings about them. So its length is
a difference that there is. A span that is decoded is not looked at in this way: whatever two numbers
of 64 bits a text spells, they are taken for a span.
-/

namespace Forklift

namespace Span

/-- The text of a span: its value on one line. -/
def text (span : Span) : String :=
  span.toJson.compact

/-- The span that a text spells. -/
def ofText? (text : String) : Option Span :=
  (Json.Tree.ofText? text).bind ofTree?

theorem ofText?_text {span : Span} (fits : span.Fits) : ofText? span.text = some span := by
  rw [ofText?, text, Json.Tree.ofText?_compact span.plain_toJson, Option.bind_some,
    ofTree?_toJson fits]

/-- The spans that are computed, by what computes them. -/
inductive Computed : Span → Prop where
  | between {start stop : Nat} {span : Span} (made : Span.between start stop = .ok span) :
      Computed span
  | emptyAt (offset : Nat) : Computed (.emptyAt offset)
  | gate {text : String} {violation : Violation} {span : Span}
      (found : Violation.first? text = some violation)
      (place : violation.diagnostic.span = some span) : Computed span
  | lexer {text : String} {token : Token} (member : token ∈ tokens text) : Computed token.span
  | stream {text : String} {count : Nat} {token : Token}
      (answered : (ByteStream.ofText text).answer count = .step token) : Computed token.span
  | validator {text : String} {finding : Diagnostic} {span : Span}
      (member : finding ∈ (validate (tokens text)).issues) (place : finding.span = some span) :
      Computed span

end Span

/-- An error that points into a text points at a span in order. -/
theorem Diagnostic.PointsInto.ordered {text : String} {finding : Diagnostic} {span : Span}
    (points : finding.PointsInto text) (place : finding.span = some span) : span.Ordered := by
  obtain ⟨-, found, present, inside⟩ := points
  obtain rfl := Option.some.inj (present.symm.trans place)
  exact inside.ordered

namespace ByteStream

theorem answer_ofText (text : String) (count : Nat) :
    (ofText text).answer count = (tokens text)[count]?.elim .ended .step := by
  rw [tokens_eq_tokensBehind]
  exact answer_eq (ofText text) count

/-- A stream answers with the steps of its text. -/
theorem mem_of_answer {text : String} {count : Nat} {token : Token}
    (answered : (ofText text).answer count = .step token) : token ∈ tokens text := by
  rw [answer_ofText] at answered
  cases found : (tokens text)[count]? with
  | none =>
    rw [found] at answered
    contradiction
  | some other =>
    rw [found] at answered
    obtain rfl := Answer.step.inj answered
    exact List.mem_of_getElem? found

theorem answer_ne_reversedSpan (text : String) (count : Nat) (bounds : ReversedSpan) :
    (ofText text).answer count ≠ .reversedSpan bounds := by
  rw [answer_ofText]
  cases (tokens text)[count]? <;> nofun

end ByteStream

namespace Span

/-- Whatever computes a span computes one in order. -/
theorem Computed.ordered {span : Span} (computed : span.Computed) : span.Ordered := by
  cases computed with
  | between made => exact (between_eq_ok_iff.1 made).2
  | emptyAt offset => exact Nat.le_refl offset
  | gate found place => exact (Violation.pointsInto_of_first? found).ordered place
  | lexer member => exact (Token.isPlaceIn_of_mem member).ordered
  | stream answered => exact (Token.isPlaceIn_of_mem (ByteStream.mem_of_answer answered)).ordered
  | validator member place => exact (Validation.pointsInto_of_mem_issues member).ordered place

/-- The ends of a span that a text spells take at most 64 bits. -/
theorem fits_of_ofText? {text : String} {span : Span} (read : ofText? text = some span) :
    span.Fits := by
  obtain ⟨tree, -, spelled⟩ := Option.bind_eq_some_iff.1 read
  exact fits_of_ofTree? spelled

theorem fits_of_diagnostic {text : String} {diagnostic : Diagnostic} {span : Span}
    (read : Diagnostic.ofText? text = some diagnostic) (place : diagnostic.span = some span) :
    span.Fits := by
  obtain ⟨tree, -, spelled⟩ := Option.bind_eq_some_iff.1 read
  exact Diagnostic.fits_of_ofTree? spelled span place

/-- The diagnostic that tells nothing but a span. -/
def bare (span : Span) : Diagnostic :=
  ⟨"", .info, "", some span, none⟩

theorem exists_decoded_diagnostic {span : Span} (fits : span.Fits) :
    ∃ text diagnostic, Diagnostic.ofText? text = some diagnostic ∧ diagnostic.span = some span := by
  have bareFits : span.bare.Fits := by
    rintro _ ⟨⟩
    exact fits
  exact ⟨_, _, Diagnostic.ofText?_text bareFits, rfl⟩

end Span

/-- A span that is computed is in order, and no step of a text is ever refused for a reversed span.
Decoding does not keep to this: the spans that are decoded, alone or in a diagnostic, are all those whose
ends take at most 64 bits. A span in order is made between its ends; its length is a difference that there
is, and is zero exactly if the span is empty. A reversed one is not made, has no length, and is not
empty. -/
theorem computed_spans_are_ordered (span : Span) :
    (span.Computed → span.Ordered) ∧
    (∀ text count bounds, (ByteStream.ofText text).answer count ≠ .reversedSpan bounds) ∧
    ((∃ text, Span.ofText? text = some span) ↔ span.Fits) ∧
    ((∃ text diagnostic, Diagnostic.ofText? text = some diagnostic ∧
      diagnostic.span = some span) ↔ span.Fits) ∧
    (span.Ordered → Span.between span.start span.stop = .ok span ∧
      ∃ length, span.length? = some length ∧ span.start + length = span.stop ∧
        (span.isEmpty = true ↔ length = 0)) ∧
    (¬ span.Ordered → Span.between span.start span.stop = .error ⟨span.start, span.stop⟩ ∧
      span.length? = none ∧ span.isEmpty = false) := by
  refine ⟨Span.Computed.ordered, ByteStream.answer_ne_reversedSpan, ⟨?_, ?_⟩, ⟨?_, ?_⟩, ?_, ?_⟩
  · rintro ⟨text, read⟩
    exact Span.fits_of_ofText? read
  · intro fits
    exact ⟨_, Span.ofText?_text fits⟩
  · rintro ⟨text, diagnostic, read, place⟩
    exact Span.fits_of_diagnostic read place
  · exact Span.exists_decoded_diagnostic
  · intro ordered
    exact ⟨Span.between_eq_ok_iff.2 ⟨rfl, ordered⟩, span.length,
      Span.length?_of_ordered ordered, Span.start_add_length ordered, Span.isEmpty_iff ordered⟩
  · intro reversed
    refine ⟨if_neg reversed, Span.length?_of_not_ordered reversed, ?_⟩
    rw [Bool.eq_false_iff, Span.isEmpty, Ne, beq_iff_eq]
    exact fun same => reversed (Nat.le_of_eq same)

/-- A span that ends before it starts is decoded, alone and in a diagnostic, though none is made between
its ends. It has no length, and is not empty. -/
theorem reversed_span_is_decoded :
    let reversed : Span := ⟨5, 3⟩
    let finding := "\x7b\"id\":\"FSM2003\",\"severity\":\"error\",\"message\":\"\"," ++
      "\"span\":\x7b\"start\":5,\"end\":3\x7d\x7d"
    Span.ofText? "\x7b\"start\":5,\"end\":3\x7d" = some reversed ∧
      (Diagnostic.ofText? finding).map Diagnostic.span = some (some reversed) ∧
      ¬ reversed.Ordered ∧ Span.between 5 3 = .error ⟨5, 3⟩ ∧
      reversed.length? = none ∧ reversed.isEmpty = false := by
  decide +kernel

end Forklift
