import Forklift.Proofs.Command.Findings
import Forklift.Terminal.Listing

/-! # Where labels are drawn

A label takes its range from a finding, which counts bytes, and its range is drawn in characters. In a
command that is rejected for its turns both are the same, so each label is drawn at its turn. In a text
that is rejected for its format the label begins at the leftmost fault, as all in front of it is ASCII,
but it takes up a column for each byte of the character, and may end behind the text.
-/

namespace Forklift

open Step

/-- An error about a place in a text. -/
def Diagnostic.IsInside (text : String) (finding : Diagnostic) : Prop :=
  finding.severity = .error ∧
    ∃ span ∈ finding.span, span.start ≤ span.stop ∧ span.stop ≤ text.utf8ByteSize

namespace Terminal

/-! ## Labels and the parts of a command that they are about -/

namespace Label

/-- A label tells of a finding, at the place of the finding. -/
structure Tells (label : Label) (finding : Diagnostic) : Prop where
  place : finding.span = some label.place
  text : label.text = finding.labelText

/-- A label is drawn at a part of a text and no further: its range, counted in characters, is that of
the part behind the front. -/
def Covers (label : Label) (front part : List Char) : Prop :=
  label.place = ⟨front.length, front.length + part.length⟩

/-- A label that begins at a part of a text, and takes up a column for each byte of the part. -/
structure PointsAt (label : Label) (text : String) (front part back : List Char) : Prop where
  around : text.toList = front ++ (part ++ back)
  place : label.place = ⟨front.length, front.length + Text.byteLength part⟩

variable {command text : String} {label : Label} {front part back : List Char}

namespace PointsAt

theorem length_eq (points : label.PointsAt text front part back) :
    text.length = front.length + (part.length + back.length) := by
  rw [← String.length_toList, points.around, List.length_append, List.length_append]

theorem covers_iff (points : label.PointsAt text front part back) :
    label.Covers front part ↔ Text.byteLength part = part.length := by
  simp [Covers, points.place]

theorem isWithin_iff (points : label.PointsAt text front part back) :
    label.isWithin text.length = true ↔ Text.byteLength part ≤ part.length + back.length := by
  simp only [isWithin, points.length_eq, points.place, Bool.and_eq_true, decide_eq_true_eq]
  omega

/-- One column behind the text is still a place for the last position of a label. -/
theorem isPlaced_iff (points : label.PointsAt text front part back) :
    label.isPlaced text.length = true ↔ Text.byteLength part ≤ part.length + back.length + 1 := by
  simp only [isPlaced, Span.isEmpty, points.length_eq, points.place, Bool.and_eq_true,
    Bool.or_eq_true, decide_eq_true_eq, beq_iff_eq]
  omega

end PointsAt

/-! ## Labels of findings -/

theorem clamp_of_inside {size : Nat} {span : Span} (ordered : span.start ≤ span.stop)
    (inside : span.stop ≤ size) : clamp size span = span := by
  have first : span.start ≤ size := Nat.le_trans ordered inside
  rw [clamp, Nat.min_eq_left first, Nat.min_eq_left inside, Nat.max_eq_left ordered]

/-- Within a text clamping does nothing, so the label stands at the place of the finding. -/
theorem ofDiagnostic?_of_isInside {finding : Diagnostic} (some_text : command ≠ "")
    (inside : finding.IsInside command) :
    ∃ label, ofDiagnostic? command finding = some label ∧ label.Tells finding := by
  obtain ⟨severity, span, place, ordered, upper⟩ := inside
  rw [Option.mem_def] at place
  have labelled : (finding.isError && !command.isEmpty) = true := by
    simp [Diagnostic.isError, severity, some_text]
  refine ⟨⟨span, finding.labelText⟩, ?_, place, rfl⟩
  rw [ofDiagnostic?, if_pos labelled, place, Option.map_some, clamp_of_inside ordered upper]

/-- Labels stand for what their findings stand for. -/
theorem forall₂_ofDiagnostics {α : Type} {R : Diagnostic → α → Prop} {findings : List Diagnostic}
    {things : List α} (some_text : command ≠ "")
    (inside : ∀ finding ∈ findings, finding.IsInside command)
    (related : List.Forall₂ R findings things) :
    List.Forall₂ (fun label thing => ∃ finding, label.Tells finding ∧ R finding thing)
      (ofDiagnostics command findings) things := by
  induction related with
  | nil => exact .nil
  | cons first _ ih =>
    rw [List.forall_mem_cons] at inside
    obtain ⟨label, found, tells⟩ := ofDiagnostic?_of_isInside some_text inside.1
    rw [ofDiagnostics, List.filterMap_cons_some found]
    exact .cons ⟨_, tells, first⟩ (ih inside.2)

/-- There is one label for each finding, and no other. -/
theorem forall₂_tells {findings : List Diagnostic} (some_text : command ≠ "")
    (inside : ∀ finding ∈ findings, finding.IsInside command) :
    List.Forall₂ Tells (ofDiagnostics command findings) (findings.filter Diagnostic.isError) := by
  have errors : ∀ finding ∈ findings, finding.isError = true :=
    fun finding member => decide_eq_true (inside finding member).1
  rw [List.filter_eq_self.2 errors]
  have same : List.Forall₂ Eq findings findings := List.forall₂_refl findings
  refine (forall₂_ofDiagnostics some_text inside same).imp ?_
  rintro label finding ⟨_, tells, rfl⟩
  exact tells

/-- Clamping keeps places apart. -/
theorem pairwise_ofDiagnostics {findings : List Diagnostic}
    (apart : findings.Pairwise Diagnostic.Precedes) :
    (ofDiagnostics command findings).Pairwise fun label later =>
      label.place.stop ≤ later.place.start := by
  refine apart.filterMap _ ?_
  rintro finding further ⟨span, place, next, further_place, nonempty, before, -⟩ label found later
    also
  rw [Option.mem_def] at place further_place
  unfold ofDiagnostic? at found also
  rw [place] at found
  rw [further_place] at also
  split at found
  · obtain rfl := Option.some.inj found
    split at also
    · obtain rfl := Option.some.inj also
      simp only [clamp]
      omega
    · contradiction
  · contradiction

end Label

/-! ## Reports with labels -/

/-- The first line of a report. -/
def headLine (reason : Rejection) : String :=
  s!"report: [{reason.code.id}] Error: {reason.message}"

/-- A report that is drawn at its first label, and the labels that are written in it. -/
def reportLines (reason : Rejection) (first : Label) (written : List Label) : List String :=
  [headLine reason, s!"at: <command>:1:{first.place.start + 1}"] ++
    written.map (fun label => s!"label: {label.text}") ++ [s!"help: {reason.code.explanation}"]

variable {command : String} {reason : Rejection} {first : Label} {rest : List Label}
  {findings : List Diagnostic}

theorem rejectedLines_of_labels (labels : Label.ofDiagnostics command findings = first :: rest) :
    rejectedLines command reason findings = placedLines command reason (first :: rest) := by
  rw [rejectedLines, labels]

theorem placedLines_of_isPlaced (placed : first.isPlaced command.length = true) :
    placedLines command reason (first :: rest) =
      reportLines reason first ((first :: rest).filter (Label.isWithin command.length)) := by
  rw [placedLines, List.find?_cons_of_pos placed]
  rfl

/-- Labels within the command are all written. -/
theorem placedLines_of_isWithin
    (within : ∀ label ∈ first :: rest, label.isWithin command.length = true) :
    placedLines command reason (first :: rest) = reportLines reason first (first :: rest) := by
  have placed := Label.isPlaced_of_isWithin (within first (List.mem_cons_self ..))
  rw [placedLines_of_isPlaced placed, List.filter_eq_self.2 within]

/-- A single label is written if it lies within the command. If it does not but finds a place, the
report is drawn without its text, and if it finds none, nothing is drawn. -/
theorem placedLines_singleton (label : Label) :
    placedLines command reason [label] =
      if label.isWithin command.length then reportLines reason label [label]
      else if label.isPlaced command.length then reportLines reason label []
      else [headLine reason] := by
  split
  · rename_i within
    exact placedLines_of_isWithin (by simpa using within)
  · rename_i beyond
    split
    · rename_i placed
      rw [placedLines_of_isPlaced placed, List.filter_cons_of_neg beyond, List.filter_nil]
    · rename_i lost
      rw [placedLines, List.find?_cons_of_neg lost]
      rfl

end Terminal

/-! ## Findings of rejected commands -/

theorem Diagnostic.PointsInto.isInside {text : String} {finding : Diagnostic}
    (points : finding.PointsInto text) : finding.IsInside text := by
  obtain ⟨severity, span, found, place⟩ := points
  exact ⟨severity, span, found, place.ordered, place.inside⟩

/-- The findings about turns lie within the command. -/
theorem Step.Spells.isInside_diagnostics {steps : List Step} {command : String}
    (spelled : Spells steps command) :
    ∀ finding ∈ (interpret command).diagnostics, finding.IsInside command := by
  intro finding member
  rw [spelled.diagnostics_eq] at member
  exact (Validation.pointsInto_of_mem_issues member).isInside

/-- The finding about a fault lies within the text. -/
theorem Violation.isInside_blame {text : String} {front back : List Char} {c : Char}
    (around : text.toList = front ++ c :: back) :
    (blame c (Text.byteLength front)).diagnostic.IsInside text :=
  (pointsInto_blame around).isInside

/-- The findings about a text that is rejected for its format are the one about its leftmost fault. -/
theorem exists_fault_of_format {command : String} (some_text : command ≠ "")
    (rejected : (interpret command).rejection? = some .format) :
    ∃ steps c back, command.toList = spell steps ++ c :: back ∧ IsFault steps c back ∧
      (interpret command).diagnostics =
        [(Violation.blame c (Text.byteLength (spell steps))).diagnostic] := by
  have malformed : ¬ WellFormed command := by
    rw [wellFormed_iff]
    exact rejection?_eq_format_iff.1 rejected
  obtain ⟨violation, found, meaning⟩ := interpret_of_not_wellFormed malformed
  rcases Violation.isLeftmost_of_first? found with ⟨nothing, -⟩ |
    ⟨steps, c, back, around, fault, rfl⟩
  · exact absurd (String.toList_eq_nil_iff.1 nothing) some_text
  · exact ⟨steps, c, back, around, fault, by rw [meaning]; rfl⟩

namespace Terminal

namespace Label

/-- A label is drawn in full at one of the steps of a command: it covers what spells the step, and lies
within the command. -/
structure Marks (steps : List Step) (command : String) (label : Label) (step : Step) : Prop where
  covers : ∃ before after, steps = before ++ step :: after ∧
    label.Covers (spell before) step.spelling
  within : label.isWithin command.length = true

variable {command : String} {label : Label}

theorem marks_of_locates {steps : List Step} {finding : Diagnostic} {step : Step}
    (spelled : Spells steps command) (tells : label.Tells finding)
    (located : finding.Locates steps command step) : label.Marks steps command step := by
  obtain ⟨⟨before, after, rfl, span⟩, -⟩ := located
  have points : label.PointsAt command (spell before) step.spelling (spell after) := by
    constructor
    case around => simp [spelled.2, spelling]
    case place =>
      rw [tells.place, Option.some.injEq, byteLength_spell] at span
      exact span
  have ascii := step.byteLength_spelling
  exact ⟨⟨before, after, rfl, points.covers_iff.2 ascii⟩,
    points.isWithin_iff.2 (ascii ▸ Nat.le_add_right _ _)⟩

/-- The one label of a text that is no command begins at the fault. -/
theorem pointsAt_of_blame {steps : List Step} {c : Char} {back : List Char}
    (around : command.toList = spell steps ++ c :: back)
    (tells : label.Tells (Violation.blame c (Text.byteLength (spell steps))).diagnostic) :
    label.PointsAt command (spell steps) [c] back := by
  refine ⟨around, ?_⟩
  have place := tells.place
  rw [Violation.span_diagnostic_blame, Option.some.injEq, byteLength_spell] at place
  exact place.symm

end Label

/-- A report whose labels all mark a step writes them all. -/
theorem rejectedLines_of_marks {command : String} {reason : Rejection} {findings : List Diagnostic}
    {steps refused : List Step} (some_step : refused ≠ [])
    (marks : List.Forall₂ (Label.Marks steps command) (Label.ofDiagnostics command findings) refused) :
    ∃ first ∈ (Label.ofDiagnostics command findings).head?,
      rejectedLines command reason findings =
        reportLines reason first (Label.ofDiagnostics command findings) := by
  have within := ((List.forall₂_and_left _ _).1
    (marks.imp fun _ _ mark => ⟨mark.within, mark⟩)).1
  cases labels : Label.ofDiagnostics command findings with
  | nil =>
    rw [labels, List.forall₂_nil_left_iff] at marks
    exact absurd marks some_step
  | cons first rest =>
    rw [labels] at within
    exact ⟨first, rfl, (rejectedLines_of_labels labels).trans (placedLines_of_isWithin within)⟩

/-- A report with one label, about one character: the bytes of the character tell how much of it is
drawn. -/
theorem rejectedLines_of_pointsAt {command : String} {reason : Rejection} {findings : List Diagnostic}
    {label : Label} {front back : List Char} {c : Char}
    (single : Label.ofDiagnostics command findings = [label])
    (points : label.PointsAt command front [c] back) :
    rejectedLines command reason findings =
      if c.utf8Size ≤ 1 + back.length then reportLines reason label [label]
      else if c.utf8Size ≤ 1 + back.length + 1 then reportLines reason label []
      else [headLine reason] := by
  have bytes : Text.byteLength [c] = c.utf8Size := rfl
  have within := points.isWithin_iff
  have placed := points.isPlaced_iff
  rw [bytes, List.length_singleton] at within placed
  rw [rejectedLines_of_labels single, placedLines_singleton]
  simp only [within, placed]

/-- Each error of a rejected command has its label, at its place and in the order of the command. The
labels of turns are drawn at the turns, no further, and all of them are written. The label of a text that
is rejected for its format begins at the leftmost fault, and takes up a column for each byte of that
character, so it covers the character alone exactly if that is ASCII. It is written if there are columns
enough; where one is missing it is drawn without its text, and where two are missing nothing is drawn. -/
theorem labels_of_rejected {command : String} {reason : Rejection} (some_text : command ≠ "")
    (rejected : (interpret command).rejection? = some reason) :
    let findings := (interpret command).diagnostics
    let labels := Label.ofDiagnostics command findings
    List.Forall₂ Label.Tells labels (findings.filter Diagnostic.isError) ∧
    labels.Pairwise (fun label later => label.place.stop ≤ later.place.start) ∧
    (reason = .rotationalRange ∧
      (∃ steps, Spells steps command ∧
        List.Forall₂ (Label.Marks steps command) labels (steps.filter (¬ ·.Allowed))) ∧
      (∃ first ∈ labels.head?,
        rejectedLines command reason findings = reportLines reason first labels) ∨
    reason = .format ∧ ∃ steps c back label, command.toList = spell steps ++ c :: back ∧
      IsFault steps c back ∧ labels = [label] ∧
      label.place = ⟨(spell steps).length, (spell steps).length + c.utf8Size⟩ ∧
      (label.Covers (spell steps) [c] ↔ c.utf8Size = 1) ∧
      (label.isWithin command.length = true ↔ c.utf8Size ≤ 1 + back.length) ∧
      rejectedLines command reason findings =
        if c.utf8Size ≤ 1 + back.length then reportLines reason label [label]
        else if c.utf8Size ≤ 1 + back.length + 1 then reportLines reason label []
        else [headLine reason]) := by
  intro findings labels
  rcases format_or_rotationalRange rejected with rfl | rfl
  · obtain ⟨steps, c, back, around, fault, found⟩ := exists_fault_of_format some_text rejected
    have blamed := Violation.isInside_blame around
    have inside : ∀ finding ∈ (interpret command).diagnostics, finding.IsInside command := by
      rw [found]
      exact List.forall_mem_singleton.2 blamed
    obtain ⟨label, labelled, tells⟩ := Label.ofDiagnostic?_of_isInside some_text blamed
    have single : labels = [label] := by
      change Label.ofDiagnostics command (interpret command).diagnostics = [label]
      rw [found, Label.ofDiagnostics, List.filterMap_cons_some labelled, List.filterMap_nil]
    have apart : labels.Pairwise fun label later => label.place.stop ≤ later.place.start := by
      rw [single]
      exact List.pairwise_singleton _ _
    have points := Label.pointsAt_of_blame around tells
    exact ⟨Label.forall₂_tells some_text inside, apart,
      .inr ⟨rfl, steps, c, back, label, around, fault, single, points.place, points.covers_iff,
        points.isWithin_iff, rejectedLines_of_pointsAt single points⟩⟩
  · obtain ⟨steps, spelled, step, member, refused⟩ := rejection?_eq_rotationalRange_iff.1 rejected
    have inside := spelled.isInside_diagnostics
    have marks : List.Forall₂ (Label.Marks steps command) labels (steps.filter (¬ ·.Allowed)) := by
      refine (Label.forall₂_ofDiagnostics some_text inside spelled.forall₂_diagnostics).imp ?_
      rintro label turn ⟨finding, tells, located⟩
      exact Label.marks_of_locates spelled tells located
    have some_step : steps.filter (¬ ·.Allowed) ≠ [] :=
      List.ne_nil_of_mem (List.mem_filter.2 ⟨member, by simpa using refused⟩)
    exact ⟨Label.forall₂_tells some_text inside,
      Label.pairwise_ofDiagnostics spelled.pairwise_diagnostics,
      .inl ⟨rfl, ⟨steps, spelled, marks⟩, rejectedLines_of_marks some_step marks⟩⟩

/-- A letter of two bytes behind a step: its label is written, but reaches over the step behind it. -/
theorem labels_of_rejected_letter :
    "F1éB2" ≠ "" ∧ (interpret "F1éB2").rejection? = some .format ∧
      ∃ steps c label, Label.ofDiagnostics "F1éB2" (interpret "F1éB2").diagnostics = [label] ∧
        label.place = ⟨2, 4⟩ ∧ label.isWithin "F1éB2".length = true ∧
        ¬ label.Covers (spell steps) [c] := by
  have some_text : "F1éB2" ≠ "" := by decide
  have rejected : (interpret "F1éB2").rejection? = some .format := by decide
  have places : (Label.ofDiagnostics "F1éB2" (interpret "F1éB2").diagnostics).map Label.place =
      [⟨2, 4⟩] := by decide
  obtain ⟨-, -, ⟨other, -⟩ | ⟨-, steps, c, back, label, -, -, single, place, covers, -⟩⟩ :=
    labels_of_rejected some_text rejected
  · contradiction
  · rw [single, List.map_singleton, List.singleton_inj] at places
    have wide : c.utf8Size ≠ 1 := by
      rw [place, Span.mk.injEq] at places
      omega
    refine ⟨some_text, rejected, steps, c, label, single, places, ?_, mt covers.1 wide⟩
    rw [Label.isWithin, places]
    decide

/-- A sign of three bytes behind a step: its label would end two columns behind the text, so it finds no
place, and nothing is drawn. -/
theorem label_of_euro_sign_is_lost :
    (interpret "F10€").rejection? = some .format ∧
      ∃ label, Label.ofDiagnostics "F10€" (interpret "F10€").diagnostics = [label] ∧
        label.place = ⟨3, 6⟩ ∧ "F10€".length = 4 ∧ ¬ label.Covers "F10".toList ['€'] ∧
        label.isWithin "F10€".length = false ∧ label.isPlaced "F10€".length = false ∧
        rejectedLines "F10€" .format (interpret "F10€").diagnostics =
          ["report: [FSM1001] Error: Invalid command format. Use like: F10R90L90B5"] := by
  have found : Violation.first? "F10€" = some (.unexpectedCharacter '€' 3) := by decide
  have meaning : interpret "F10€" =
      .rejected .format [(Violation.unexpectedCharacter '€' 3).diagnostic] := by
    simp only [interpret, found]
  let label : Label := ⟨⟨3, 6⟩, (Violation.unexpectedCharacter '€' 3).diagnostic.labelText⟩
  have single : Label.ofDiagnostics "F10€" (interpret "F10€").diagnostics = [label] := by
    rw [meaning]
    rfl
  have beyond : label.isWithin "F10€".length = false := by decide
  have lost : label.isPlaced "F10€".length = false := by decide
  have wide : label.place ≠ ⟨"F10".toList.length, "F10".toList.length + ['€'].length⟩ := by
    decide
  refine ⟨by rw [meaning]; rfl, label, single, rfl, by decide, wide, beyond, lost, ?_⟩
  rw [rejectedLines_of_labels single, placedLines_singleton, beyond, lost]
  decide

end Terminal

end Forklift
