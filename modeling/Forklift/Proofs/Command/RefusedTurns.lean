import Forklift.Command.LeadingZeros
import Forklift.Proofs.Command.Composition
import Forklift.Proofs.Command.Layout
import Forklift.Proofs.Command.Partition
import Forklift.Text.Slice

/-! # Findings about turns

A command that is rejected for its turns has one finding for each of them that is not allowed. The
finding points at the turn as it is written, with its leading zeros, and tells it as it is read, without
them. Which findings there are hangs on these turns alone: other steps only move them.
-/

namespace Forklift

open Step

namespace Diagnostic

/-- Findings that point at one of the steps of a command, as it is written there, and tell what is wrong
with it. -/
structure Locates (steps : List Step) (command : String) (finding : Diagnostic) (step : Step) :
    Prop where
  /-- The place is that of one occurrence of the step among the steps of the command. -/
  place : ∃ before after, steps = before ++ step :: after ∧
    finding.span = some ⟨Text.byteLength (spell before),
      Text.byteLength (spell before) + Text.byteLength step.spelling⟩
  slice : ∀ span ∈ finding.span,
    Text.slice? command span.start span.stop = some (String.ofList step.spelling)
  severity : finding.severity = .error
  family : finding.told? "class" = some "rotational"
  token : finding.told? "token" =
    some (String.ofList (step.direction.letter :: Magnitude.significant step.digits))
  number : finding.told? "value" = some (String.ofList (Magnitude.significant step.digits))
  code : finding.id = if 360 < step.magnitude.value then "FSM2002" else "FSM2003"

/-- Whether two findings point at places that are not empty, the second behind the first. -/
def Precedes (finding later : Diagnostic) : Prop :=
  ∃ place ∈ finding.span, ∃ next ∈ later.span,
    place.start < place.stop ∧ place.stop ≤ next.start ∧ next.start < next.stop

/-- The finding where so many bytes have been put into the text at an offset. -/
def makeRoom (offset distance : Nat) (finding : Diagnostic) : Diagnostic :=
  if finding.span.any (offset ≤ ·.start) then finding.shift distance else finding

end Diagnostic

/-! ## Where steps are laid out -/

namespace Step

theorem length_spelling_pos (step : Step) : 0 < step.spelling.length := by
  rw [spelling, List.length_cons]
  exact Nat.succ_pos _

theorem length_spell_cons (step : Step) (rest : List Step) :
    (spell (step :: rest)).length = step.spelling.length + (spell rest).length := by
  rw [spell, List.flatMap_cons, List.length_append, ← spell]

/-- Laid out steps stand where they are spelled. -/
theorem bounds_of_mem_layOut {offset : Nat} {steps : List Step} {token : Token}
    (member : token ∈ layOut offset steps) :
    offset ≤ token.span.start ∧ token.span.start < token.span.stop ∧
      token.span.stop ≤ offset + (spell steps).length := by
  induction steps generalizing offset with
  | nil => simp [layOut] at member
  | cons step rest ih =>
    have taken := step.length_spelling_pos
    rw [length_spell_cons]
    rcases List.mem_cons.1 member with rfl | later
    · simp only [tokenAt]
      omega
    · obtain ⟨lower, nonempty, upper⟩ := ih later
      omega

theorem pairwise_layOut (offset : Nat) (steps : List Step) :
    (layOut offset steps).Pairwise fun token later => token.span.stop ≤ later.span.start := by
  induction steps generalizing offset with
  | nil => exact .nil
  | cons step rest ih =>
    refine List.pairwise_cons.2 ⟨?_, ih _⟩
    intro later member
    exact (bounds_of_mem_layOut member).1

end Step

/-! ## What findings tell of steps -/

theorem Token.span_of_issue? {token : Token} {finding : Diagnostic}
    (found : token.issue? = some finding) : finding.span = some token.span := by
  obtain ⟨fault, -, rfl⟩ := Option.map_eq_some_iff.1 found
  cases fault <;> rfl

namespace Step

/-- The digits of a turn that is not allowed are not all zeros, so without the leading ones they are its
canonical digits. -/
theorem digits_magnitude {step : Step} (refused : ¬ step.Allowed) :
    step.magnitude.digits = Magnitude.significant step.digits := by
  have canonical := Magnitude.toDigits_ofDigitChars_zero step.all_isDigit
  split at canonical
  · rename_i zeros
    have zero : step.magnitude.value = 0 := by
      rw [magnitude, ← Magnitude.ofDigitChars_significant, zeros]
      rfl
    exact absurd (fun _ => by rw [zero]; decide) refused
  · exact canonical

/-- A turn that is not allowed is above 360 degrees or no multiple of 90. -/
theorem not_dvd_of_not_allowed {step : Step} (refused : ¬ step.Allowed)
    (small : step.magnitude.value ≤ 360) : ¬ 90 ∣ step.magnitude.value := by
  rintro ⟨turns, right⟩
  apply refused
  intro _
  simp only [List.mem_cons, List.not_mem_nil, or_false]
  omega

/-- The finding about a step that is not allowed locates it among the steps of its command. -/
theorem locates_of_issue? {before after : List Step} {step : Step} {command : String}
    {finding : Diagnostic} (spelled : command.toList = spell (before ++ step :: after))
    (refused : ¬ step.Allowed)
    (found : (step.tokenAt (spell before).length).issue? = some finding) :
    finding.Locates (before ++ step :: after) command step := by
  have span := Token.span_of_issue? found
  obtain ⟨fault, faulty, rfl⟩ := Option.map_eq_some_iff.1 found
  obtain ⟨token, number, family⟩ := fault.told?_diagnostic (step.tokenAt (spell before).length)
  obtain ⟨severity, -, -, -, -, outOfRange, notRightAngle⟩ := TurnFault.reports faulty
  have digits : (step.tokenAt (spell before).length).magnitude.digits =
      Magnitude.significant step.digits := digits_magnitude refused
  have place : (step.tokenAt (spell before).length).span = ⟨Text.byteLength (spell before),
      Text.byteLength (spell before) + Text.byteLength step.spelling⟩ := by
    rw [byteLength_spell, byteLength_spelling]
    rfl
  rw [place] at span
  have around : command.toList = spell before ++ (step.spelling ++ spell after) := by
    simp [spelled, spelling]
  rw [Token.text, digits] at token
  rw [Magnitude.text, digits] at number
  refine ⟨⟨before, after, rfl, span⟩, ?_, severity, family, token, number, ?_⟩
  · intro bounds member
    rw [span] at member
    obtain rfl := Option.some.inj member
    exact Text.slice?_of_append around
  · split
    · rename_i large
      exact outOfRange.2 large
    · rename_i large
      have small : step.magnitude.value ≤ 360 := Nat.le_of_not_lt large
      exact notRightAngle.2 ⟨small, not_dvd_of_not_allowed refused small⟩

/-- Each step that is not allowed has the finding that locates it, in the order of the steps. -/
theorem forall₂_locates {before rest : List Step} {command : String}
    (spelled : command.toList = spell (before ++ rest)) :
    List.Forall₂ (Diagnostic.Locates (before ++ rest) command)
      ((layOut (spell before).length rest).filterMap Token.issue?)
      (rest.filter (¬ ·.Allowed)) := by
  induction rest generalizing before with
  | nil => exact .nil
  | cons step rest ih =>
    have onward : command.toList = spell (before ++ [step] ++ rest) := by simpa using spelled
    have further := ih onward
    have shifted : (spell (before ++ [step])).length =
        (spell before).length + step.spelling.length := by
      rw [spell_append, List.length_append, length_spell_cons]
      rfl
    rw [shifted, List.append_assoc, List.singleton_append] at further
    rw [layOut]
    by_cases allowed : step.Allowed
    · have silent : (step.tokenAt (spell before).length).issue? = none :=
        Option.map_eq_none_iff.2 (fault?_tokenAt_eq_none_iff.2 allowed)
      rw [List.filterMap_cons_none silent, List.filter_cons_of_neg (by simpa using allowed)]
      exact further
    · cases found : (step.tokenAt (spell before).length).issue? with
      | none =>
        exact absurd (fault?_tokenAt_eq_none_iff.1 (Option.map_eq_none_iff.1 found)) allowed
      | some finding =>
        rw [List.filterMap_cons_some found, List.filter_cons_of_pos (by simpa using allowed)]
        exact .cons (locates_of_issue? spelled allowed found) further

/-- The findings about laid out steps point at places that lie apart, in the order of the steps. -/
theorem pairwise_issues (offset : Nat) (steps : List Step) :
    ((layOut offset steps).filterMap Token.issue?).Pairwise Diagnostic.Precedes := by
  have apart : (layOut offset steps).Pairwise fun token later =>
      token.span.start < token.span.stop ∧ token.span.stop ≤ later.span.start ∧
        later.span.start < later.span.stop := by
    refine (pairwise_layOut offset steps).imp_of_mem ?_
    intro token later member later_member before
    exact ⟨(bounds_of_mem_layOut member).2.1, before, (bounds_of_mem_layOut later_member).2.1⟩
  refine List.Pairwise.filterMap _ ?_ apart
  intro token later before finding found other also
  exact ⟨token.span, Token.span_of_issue? found, later.span, Token.span_of_issue? also, before⟩

end Step

/-! ## Room for allowed steps -/

namespace Step

/-- Allowed steps have no findings. -/
theorem issues_layOut_of_allowed {steps : List Step} (allowed : ∀ step ∈ steps, step.Allowed)
    (offset : Nat) : (layOut offset steps).filterMap Token.issue? = [] := by
  rw [List.filterMap_eq_nil_iff]
  intro token member
  exact Option.map_eq_none_iff.2 (forall_layOut_fault?_iff.2 allowed token member)

/-- Findings in front of the room stay. -/
theorem makeRoom_issues_front (distance : Nat) (front : List Step) :
    ((layOut 0 front).filterMap Token.issue?).map
        (Diagnostic.makeRoom (spell front).length distance) =
      (layOut 0 front).filterMap Token.issue? := by
  refine (List.map_congr_left ?_).trans (List.map_id _)
  intro finding member
  obtain ⟨token, inside, found⟩ := List.mem_filterMap.1 member
  obtain ⟨-, nonempty, upper⟩ := bounds_of_mem_layOut inside
  have before : ¬ (spell front).length ≤ token.span.start := by omega
  simp [Diagnostic.makeRoom, Token.span_of_issue? found, before]

/-- Findings behind the room are moved by its size. -/
theorem makeRoom_issues_back (offset distance : Nat) (back : List Step) :
    ((layOut offset back).filterMap Token.issue?).map (Diagnostic.makeRoom offset distance) =
      (layOut (offset + distance) back).filterMap Token.issue? := by
  rw [Nat.add_comm, ← map_shift_layOut, List.filterMap_map, List.map_filterMap]
  apply List.filterMap_congr
  intro token inside
  rw [Function.comp_apply, Token.issue?_shift]
  cases found : token.issue? with
  | none => rfl
  | some finding =>
    have behind := (bounds_of_mem_layOut inside).1
    simp [Diagnostic.makeRoom, Token.span_of_issue? found, behind]

end Step

namespace Step.Spells

variable {steps front valid back : List Step} {command wider : String}

/-- The findings about a command are those of its steps as they are laid out. -/
theorem diagnostics_eq_layOut (spelled : Spells steps command) :
    (interpret command).diagnostics = (layOut 0 steps).filterMap Token.issue? := by
  rw [spelled.diagnostics_eq, Validation.issues_validate, spelled.tokens_eq]

/-- The findings about a command locate its steps that are not allowed. -/
theorem forall₂_diagnostics (spelled : Spells steps command) :
    List.Forall₂ (Diagnostic.Locates steps command) (interpret command).diagnostics
      (steps.filter (¬ ·.Allowed)) := by
  rw [spelled.diagnostics_eq_layOut]
  exact @forall₂_locates [] steps command spelled.2

theorem pairwise_diagnostics (spelled : Spells steps command) :
    (interpret command).diagnostics.Pairwise Diagnostic.Precedes := by
  rw [spelled.diagnostics_eq_layOut]
  exact pairwise_issues 0 steps

/-- Allowed steps that are put between the steps of a command move the findings behind them, and do
nothing else to findings. -/
theorem diagnostics_insert (spelled : Spells (front ++ back) command)
    (allowed : ∀ step ∈ valid, step.Allowed) (widened : Spells (front ++ (valid ++ back)) wider) :
    (interpret wider).diagnostics = (interpret command).diagnostics.map
      (Diagnostic.makeRoom (spell front).length (spell valid).length) := by
  rw [spelled.diagnostics_eq_layOut, widened.diagnostics_eq_layOut, layOut_append, layOut_append,
    layOut_append, List.filterMap_append, List.filterMap_append, List.filterMap_append,
    issues_layOut_of_allowed allowed, List.nil_append, List.map_append, makeRoom_issues_front,
    Nat.zero_add, makeRoom_issues_back]

end Step.Spells

/-- A command that is rejected for its turns has one finding for each turn that is not by up to four
right angles, and no other, in the order of the turns. Each points at its turn as it is written, and
tells its letter and number without leading zeros, and whether it is above 360 degrees. The places lie
apart. Where allowed steps are put between the steps of the command, or in front of or behind them, the
findings behind them are moved by their size, and nothing else happens to any of them. -/
theorem diagnostics_locate_turns {command : String}
    (rejected : (interpret command).rejection? = some .rotationalRange) :
    ∃ steps, Spells steps command ∧
      List.Forall₂ (Diagnostic.Locates steps command) (interpret command).diagnostics
        (steps.filter fun step => step.direction.motionClass = .rotational ∧
          step.magnitude.value ∉ [0, 90, 180, 270, 360]) ∧
      (interpret command).diagnostics.Pairwise Diagnostic.Precedes ∧
      ∀ front valid back wider, steps = front ++ back → (∀ step ∈ valid, step.Allowed) →
        Spells (front ++ (valid ++ back)) wider →
        (interpret wider).rejection? = some .rotationalRange ∧
        (interpret wider).diagnostics = (interpret command).diagnostics.map
          (Diagnostic.makeRoom (spell front).length (spell valid).length) := by
  obtain ⟨steps, spelled, step, member, refused⟩ := rejection?_eq_rotationalRange_iff.1 rejected
  refine ⟨steps, spelled, ?_, spelled.pairwise_diagnostics, ?_⟩
  · simpa [Allowed] using spelled.forall₂_diagnostics
  · rintro front valid back wider rfl allowed widened
    refine ⟨rejection?_eq_rotationalRange_iff.2 ⟨_, widened, step, ?_, refused⟩,
      spelled.diagnostics_insert allowed widened⟩
    rcases List.mem_append.1 member with before | behind
    · exact List.mem_append_left _ before
    · exact List.mem_append_right _ (List.mem_append_right _ behind)

/-- Two turns that are not allowed, the first one with a leading zero. A distance of two bytes between
them moves the second finding by two bytes. -/
theorem diagnostics_locate_turns_around_a_distance :
    (interpret "R045L1000").rejection? = some .rotationalRange ∧
      (interpret "R045B5L1000").diagnostics =
        (interpret "R045L1000").diagnostics.map (Diagnostic.makeRoom 4 2) ∧
      (interpret "R045B5L1000").diagnostics.map Diagnostic.span =
        [some ⟨0, 4⟩, some ⟨6, 11⟩] := by
  have rejected : (interpret "R045L1000").rejection? = some .rotationalRange := by decide
  let front : List Step := [⟨.turnRight, ['0', '4', '5'], by decide, by decide⟩]
  let valid : List Step := [⟨.backward, ['5'], by decide, by decide⟩]
  let back : List Step := [⟨.turnLeft, ['1', '0', '0', '0'], by decide, by decide⟩]
  have whole : Spells (front ++ back) "R045L1000" := ⟨by decide, by decide⟩
  have widened : Spells (front ++ (valid ++ back)) "R045B5L1000" := ⟨by decide, by decide⟩
  obtain ⟨steps, spelled, -, -, room⟩ := diagnostics_locate_turns rejected
  obtain ⟨-, moved⟩ := room front valid back _ (whole.unique spelled) (by decide) widened
  exact ⟨rejected, moved, by decide⟩

end Forklift
