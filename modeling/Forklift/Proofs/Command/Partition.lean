import Forklift.Command.ValidationPass
import Mathlib.Data.List.Forall2

/-! # What validation sorts

Validation splits the steps in two: those that are in range, which are kept, and the others, each of
which has one finding. Both parts keep the order of the steps, so nothing is lost, joined or moved.
Distances are always in range; the only reason for a rejection is a turn.
-/

namespace Forklift

namespace Token

/-- Steps in range: every distance, and the turns by up to four right angles. -/
def InRange (token : Token) : Prop :=
  token.direction.motionClass = .linear ∨ token.magnitude.value ∈ [0, 90, 180, 270, 360]

instance (token : Token) : Decidable token.InRange :=
  inferInstanceAs (Decidable (_ ∨ _))

theorem fault?_isNone_eq (token : Token) : token.fault?.isNone = decide token.InRange := by
  rw [Bool.eq_iff_iff, Option.isNone_iff_eq_none, fault?_eq_none_iff, decide_eq_true_eq, InRange]

/-- The canonical spelling is the upper-case letter and the number. -/
theorem text_eq (token : Token) :
    token.text = s!"{token.direction.letter}{token.magnitude.value}" := by
  apply String.toList_inj.1
  simp [text, Magnitude.digits, toString]

end Token

namespace Diagnostic

/-- What a finding tells under a key of its context. -/
def told? (finding : Diagnostic) (key : String) : Option String :=
  finding.context.bind (·.get? key)

/-- Findings that reject a turn: they point at its place, spell it and its number, and tell whether it
is too large or no multiple of a right angle. -/
structure Reports (finding : Diagnostic) (token : Token) : Prop where
  severity : finding.severity = .error
  span : finding.span = some token.span
  spelling : finding.told? "token" = some s!"{token.direction.letter}{token.magnitude.value}"
  number : finding.told? "value" = some (toString token.magnitude.value)
  family : finding.told? "class" = some "rotational"
  outOfRange : finding.id = "FSM2002" ↔ 360 < token.magnitude.value
  notRightAngle : finding.id = "FSM2003" ↔
    token.magnitude.value ≤ 360 ∧ ¬ 90 ∣ token.magnitude.value

end Diagnostic

namespace TurnFault

/-- Which fault a turn has hangs on its number alone. -/
theorem of_fault? {token : Token} {fault : TurnFault} (found : token.fault? = some fault) :
    match fault with
    | outOfRange => 360 < token.magnitude.value
    | notRightAngle => token.magnitude.value ≤ 360 ∧ ¬ 90 ∣ token.magnitude.value := by
  cases family : token.direction.motionClass with
  | linear =>
    rw [Token.fault?_of_linear family] at found
    contradiction
  | rotational =>
    rw [Token.fault?_of_rotational family] at found
    split at found
    · rename_i large
      obtain rfl := Option.some.inj found
      exact large
    · split at found
      · contradiction
      · obtain rfl := Option.some.inj found
        dsimp only
        omega

/-- Both findings tell the spelling, the number and the class of a turn. -/
theorem told?_diagnostic (fault : TurnFault) (token : Token) :
    (fault.diagnostic token).told? "token" = some token.text ∧
      (fault.diagnostic token).told? "value" = some token.magnitude.text ∧
      (fault.diagnostic token).told? "class" = some MotionClass.rotational.name := by
  cases fault <;>
    simp [diagnostic, diagnostic.details, Diagnostic.told?, Diagnostic.error, Context.ofList,
      Context.get?_insert]

theorem reports {token : Token} {fault : TurnFault} (found : token.fault? = some fault) :
    (fault.diagnostic token).Reports token := by
  obtain ⟨spelling, number, family⟩ := fault.told?_diagnostic token
  rw [Token.text_eq] at spelling
  have faulty := of_fault? found
  cases fault with
  | outOfRange =>
    have large : 360 < token.magnitude.value := faulty
    have other : Code.turnOutOfRange.id ≠ "FSM2003" := by decide
    have notSmall : ¬ (token.magnitude.value ≤ 360 ∧ ¬ 90 ∣ token.magnitude.value) := by omega
    exact ⟨rfl, rfl, spelling, number, family, iff_of_true rfl large, iff_of_false other notSmall⟩
  | notRightAngle =>
    have skew : token.magnitude.value ≤ 360 ∧ ¬ 90 ∣ token.magnitude.value := faulty
    have other : Code.turnNotRightAngle.id ≠ "FSM2002" := by decide
    have notLarge : ¬ 360 < token.magnitude.value := by omega
    exact ⟨rfl, rfl, spelling, number, family, iff_of_false other notLarge, iff_of_true rfl skew⟩

end TurnFault

namespace Validation

/-- What validation makes of steps. -/
structure Partitions (validation : Validation) (tokens : List Token) : Prop where
  /-- The steps in range are kept, in their order. -/
  accepted : validation.accepted = tokens.filter (·.InRange)
  /-- Each other step has one finding, in their order. -/
  issues : List.Forall₂ Diagnostic.Reports validation.issues (tokens.filter (¬ ·.InRange))
  linear : validation.allValid .linear = true
  rotational : validation.allValid .rotational = validation.issues.isEmpty
  ok : validation.ok = validation.issues.isEmpty
  rotationalRange_iff : validation.rejection? = some .rotationalRange ↔
    ∃ token ∈ tokens, token.direction.motionClass = .rotational ∧ ¬ token.InRange
  ne_linearRange : validation.rejection? ≠ some .linearRange
  /-- All steps or none of them are handed on. -/
  result : validation.result =
    if ∀ token ∈ tokens, token.InRange then .ok tokens else .error .rotationalRange

variable (tokens : List Token)

theorem accepted_validate : (validate tokens).accepted = tokens.filter (·.InRange) := by
  simp only [validate, Token.fault?_isNone_eq]

theorem forall₂_reports :
    List.Forall₂ Diagnostic.Reports (validate tokens).issues (tokens.filter (¬ ·.InRange)) := by
  rw [issues_validate]
  induction tokens with
  | nil => exact .nil
  | cons token rest ih =>
    cases found : token.fault? with
    | none =>
      have silent : token.issue? = none := Option.map_eq_none_iff.2 found
      have inside : token.InRange := Token.fault?_eq_none_iff.1 found
      rw [List.filterMap_cons_none silent, List.filter_cons_of_neg (by simpa using inside)]
      exact ih
    | some fault =>
      have outside : ¬ token.InRange := by
        intro inside
        rw [Token.fault?_eq_none_iff.2 inside] at found
        contradiction
      have reported : token.issue? = some (fault.diagnostic token) := by
        rw [Token.issue?, found, Option.map_some]
      rw [List.filterMap_cons_some reported, List.filter_cons_of_pos (by simpa using outside)]
      exact .cons (TurnFault.reports found) ih

/-- No finding is what it takes for the turns to be valid. -/
theorem allValid_rotational_validate :
    (validate tokens).allValid .rotational = (validate tokens).issues.isEmpty := by
  rw [Bool.eq_iff_iff, allValid_rotational_validate_iff, List.isEmpty_iff,
    issues_validate_eq_nil_iff]

theorem forall_fault?_iff :
    (∀ token ∈ tokens, token.fault? = none) ↔ ∀ token ∈ tokens, token.InRange :=
  forall₂_congr fun _ _ => Token.fault?_eq_none_iff

theorem result_validate :
    (validate tokens).result =
      if ∀ token ∈ tokens, token.InRange then .ok tokens else .error .rotationalRange := by
  split
  · rename_i inside
    have valid := (forall_fault?_iff tokens).2 inside
    rw [result, rejection?_validate_eq_none_iff.2 valid, accepted_validate_of_valid valid]
  · rename_i outside
    rw [result, rejection?_validate_of_faulty (mt (forall_fault?_iff tokens).1 outside)]

theorem rejection?_validate_eq_rotationalRange_iff :
    (validate tokens).rejection? = some .rotationalRange ↔
      ∃ token ∈ tokens, token.direction.motionClass = .rotational ∧ ¬ token.InRange := by
  by_cases valid : ∀ token ∈ tokens, token.fault? = none
  · rw [rejection?_validate_eq_none_iff.2 valid]
    apply iff_of_false nofun
    rintro ⟨token, member, -, outside⟩
    exact outside ((forall_fault?_iff tokens).1 valid token member)
  · apply iff_of_true (rejection?_validate_of_faulty valid)
    have faulty : ∃ token ∈ tokens, ¬ token.InRange := by
      simpa [forall_fault?_iff] using valid
    obtain ⟨token, member, outside⟩ := faulty
    refine ⟨token, member, ?_, outside⟩
    cases family : token.direction.motionClass with
    | linear => exact (outside (.inl family)).elim
    | rotational => rfl

theorem rejection?_validate_ne_linearRange :
    (validate tokens).rejection? ≠ some .linearRange := by
  by_cases valid : ∀ token ∈ tokens, token.fault? = none
  · rw [rejection?_validate_eq_none_iff.2 valid]
    nofun
  · rw [rejection?_validate_of_faulty valid]
    decide

theorem ok_validate : (validate tokens).ok = (validate tokens).issues.isEmpty := by
  rw [ok, allValid_linear_validate, allValid_rotational_validate, Bool.true_and]

theorem partitions_validate : (validate tokens).Partitions tokens where
  accepted := accepted_validate tokens
  issues := forall₂_reports tokens
  linear := allValid_linear_validate tokens
  rotational := allValid_rotational_validate tokens
  ok := ok_validate tokens
  rotationalRange_iff := rejection?_validate_eq_rotationalRange_iff tokens
  ne_linearRange := rejection?_validate_ne_linearRange tokens
  result := result_validate tokens

end Validation

/-- Validation partitions any steps, whether it sorts them or passes over them once, and it does so to
each part of a longer list on its own. -/
theorem validate_splits (tokens : List Token) :
    (validate tokens).Partitions tokens ∧
    ValidationPass.ofTokens tokens = .ofValidation (validate tokens) ∧
    ∀ further,
      (validate (tokens ++ further)).accepted =
        (validate tokens).accepted ++ (validate further).accepted ∧
      (validate (tokens ++ further)).issues =
        (validate tokens).issues ++ (validate further).issues ∧
      (∀ motionClass, (validate (tokens ++ further)).allValid motionClass =
        ((validate tokens).allValid motionClass && (validate further).allValid motionClass)) ∧
      (validate (tokens ++ further)).ok = ((validate tokens).ok && (validate further).ok) := by
  refine ⟨Validation.partitions_validate tokens, ValidationPass.ofTokens_eq tokens, ?_⟩
  intro further
  have joined : (validate (tokens ++ further)).ok =
      ((validate tokens).ok && (validate further).ok) := by
    simp only [Validation.ok, Validation.allValid_validate_append,
      Validation.allValid_linear_validate, Bool.true_and]
  exact ⟨congrArg Validation.accepted (Validation.validate_append tokens further),
    Validation.issues_validate_append tokens further,
    fun motionClass => Validation.allValid_validate_append motionClass tokens further, joined⟩

end Forklift
