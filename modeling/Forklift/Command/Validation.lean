import Forklift.Command.Rejection
import Forklift.Command.Token
import Forklift.Diagnostic.Basic

/-! # Range validation

A distance is always in range. A turn is in range when it is a multiple of 90 degrees up to 360.
Validation looks at every step: it keeps the valid ones in their order and reports each of the
others.
-/

namespace Forklift

/-- The largest turn, in degrees. -/
def maxTurn : UInt32 := 360

/-- Every turn is a multiple of this many degrees. -/
def turnUnit : UInt32 := 90

/-- What is wrong with a turn. -/
inductive TurnFault where
  | outOfRange
  | notRightAngle
deriving DecidableEq, Repr

namespace Token

/-- What is wrong with a step, if anything is. An angle that is too large is reported as such even
where it is no multiple of a right angle, and one beyond 32 bits is too large. -/
def fault? (token : Token) : Option TurnFault :=
  match token.direction.motionClass with
  | .linear => none
  | .rotational =>
    match token.magnitude.toUInt32? with
    | some degrees =>
      if maxTurn < degrees then some .outOfRange
      else if degrees % turnUnit ≠ 0 then some .notRightAngle
      else none
    | none => some .outOfRange

theorem fault?_of_linear {token : Token} (family : token.direction.motionClass = .linear) :
    token.fault? = none := by
  simp only [fault?, family]

/-- The test of a turn gives what exact arithmetic gives, whatever the size of the turn. -/
theorem fault?_of_rotational {token : Token} (family : token.direction.motionClass = .rotational) :
    token.fault? =
      if 360 < token.magnitude.value then some .outOfRange
      else if token.magnitude.value % 90 = 0 then none
      else some .notRightAngle := by
  simp only [fault?, family]
  cases fits : token.magnitude.toUInt32? with
  | none =>
    have large := Magnitude.toUInt32?_eq_none_iff.1 fits
    rw [if_pos (by simp only [UInt32.size] at large; omega)]
  | some degrees =>
    have value := Magnitude.toUInt32?_eq_some_iff.1 fits
    have large : maxTurn < degrees ↔ 360 < token.magnitude.value := by
      rw [UInt32.lt_iff_toNat_lt, value]
      rfl
    have whole : degrees % turnUnit = 0 ↔ token.magnitude.value % 90 = 0 := by
      rw [← UInt32.toNat_inj, UInt32.toNat_mod, value]
      rfl
    simp only [large, ne_eq, whole, ite_not]

/-- The valid steps are all distances, and the turns by up to four right angles. -/
theorem fault?_eq_none_iff {token : Token} :
    token.fault? = none ↔
      token.direction.motionClass = .linear ∨ token.magnitude.value ∈ [0, 90, 180, 270, 360] := by
  cases family : token.direction.motionClass with
  | linear => simp [fault?_of_linear family]
  | rotational =>
    rw [fault?_of_rotational family]
    simp only [reduceCtorEq, false_or, List.mem_cons, List.not_mem_nil, or_false]
    split
    · simp only [reduceCtorEq, false_iff]
      omega
    · split
      · simp only [true_iff]
        omega
      · simp only [reduceCtorEq, false_iff]
        omega

end Token

/-- The finding that reports a faulty turn. -/
def TurnFault.diagnostic (token : Token) : TurnFault → Diagnostic
  | outOfRange =>
    .error .turnOutOfRange s!"turn {token.text} exceeds {maxTurn} degrees" (some token.span)
      (some (Context.ofList (("max", toString maxTurn) :: details)))
  | notRightAngle =>
    .error .turnNotRightAngle s!"turn {token.text} is not a multiple of {turnUnit} degrees"
      (some token.span) (some (Context.ofList (("step", toString turnUnit) :: details)))
where
  details : List (String × String) :=
    [("class", MotionClass.rotational.name), ("token", token.text),
      ("value", token.magnitude.text)]

/-- The finding about a step, if something is wrong with it. -/
def Token.issue? (token : Token) : Option Diagnostic :=
  token.fault?.map (TurnFault.diagnostic token)

/-- The place of a turn has a part in its finding as the place that is shown, and no other. -/
theorem TurnFault.diagnostic_shift (offset : Nat) (token : Token) (fault : TurnFault) :
    fault.diagnostic (token.shift offset) = (fault.diagnostic token).shift offset := by
  cases fault <;> rfl

theorem Token.issue?_shift (offset : Nat) (token : Token) :
    (token.shift offset).issue? = token.issue?.map (Diagnostic.shift offset) := by
  have same : (token.shift offset).fault? = token.fault? := rfl
  simp only [issue?, same, Option.map_map]
  congr 1
  funext fault
  exact fault.diagnostic_shift offset token

/-- The steps of a command, sorted into valid ones and faulty ones. -/
structure Validation where
  /-- The valid steps, in their order. -/
  accepted : List Token
  /-- The faulty steps, in their order. -/
  faulty : List (Token × TurnFault)
deriving DecidableEq, Repr

/-- Sorts every step, whatever the ones before it. -/
def validate (tokens : List Token) : Validation where
  accepted := tokens.filter (·.fault?.isNone)
  faulty := tokens.filterMap fun token => token.fault?.map (token, ·)

namespace Validation

/-- The findings about the faulty steps, in their order. -/
def issues (validation : Validation) : List Diagnostic :=
  validation.faulty.map fun (token, fault) => fault.diagnostic token

/-- Whether no step of a class is faulty. -/
def allValid (validation : Validation) (motionClass : MotionClass) : Bool :=
  validation.faulty.all (·.1.direction.motionClass ≠ motionClass)

/-- Whether no step is faulty. -/
def ok (validation : Validation) : Bool :=
  validation.allValid .linear && validation.allValid .rotational

/-- The reason for a rejection; faulty distances come before faulty turns. -/
def rejection? (validation : Validation) : Option Rejection :=
  if !validation.allValid .linear then some .linearRange
  else if !validation.allValid .rotational then some .rotationalRange
  else none

/-- All steps, or the reason for a rejection: never a part of the steps. -/
def result (validation : Validation) : Except Rejection (List Token) :=
  match validation.rejection? with
  | some reason => .error reason
  | none => .ok validation.accepted

theorem mem_faulty_validate_iff {tokens : List Token} {token : Token} {fault : TurnFault} :
    (token, fault) ∈ (validate tokens).faulty ↔ token ∈ tokens ∧ token.fault? = some fault := by
  simp only [validate, List.mem_filterMap, Option.map_eq_some_iff, Prod.mk.injEq]
  constructor
  · rintro ⟨token', member, fault', found, rfl, rfl⟩
    exact ⟨member, found⟩
  · rintro ⟨member, found⟩
    exact ⟨token, member, fault, found, rfl, rfl⟩

/-- No distance is ever faulty. -/
theorem allValid_linear_validate (tokens : List Token) :
    (validate tokens).allValid .linear = true := by
  simp only [allValid, List.all_eq_true, decide_eq_true_eq]
  rintro ⟨token, fault⟩ member linear
  have found := (mem_faulty_validate_iff.1 member).2
  rw [Token.fault?_of_linear linear] at found
  contradiction

theorem allValid_rotational_validate_iff {tokens : List Token} :
    (validate tokens).allValid .rotational = true ↔ ∀ token ∈ tokens, token.fault? = none := by
  simp only [allValid, List.all_eq_true, decide_eq_true_eq]
  constructor
  · intro valid token member
    cases found : token.fault? with
    | none => rfl
    | some fault =>
      have other := valid (token, fault) (mem_faulty_validate_iff.2 ⟨member, found⟩)
      cases family : token.direction.motionClass with
      | linear => rw [Token.fault?_of_linear family] at found; contradiction
      | rotational => exact (other family).elim
  · rintro valid ⟨token, fault⟩ member
    obtain ⟨member, found⟩ := mem_faulty_validate_iff.1 member
    rw [valid token member] at found
    contradiction

theorem rejection?_validate_of_faulty {tokens : List Token}
    (faulty : ¬ ∀ token ∈ tokens, token.fault? = none) :
    (validate tokens).rejection? = some .rotationalRange := by
  have refused := Bool.eq_false_iff.2 (mt allValid_rotational_validate_iff.1 faulty)
  simp only [rejection?, allValid_linear_validate, refused, Bool.not_true, Bool.not_false,
    Bool.false_eq_true, ↓reduceIte]

/-- Validation rejects exactly where a step is faulty, and then for the turns. -/
theorem rejection?_validate_eq_none_iff {tokens : List Token} :
    (validate tokens).rejection? = none ↔ ∀ token ∈ tokens, token.fault? = none := by
  constructor
  · intro passed
    apply Decidable.byContradiction
    intro faulty
    rw [rejection?_validate_of_faulty faulty] at passed
    contradiction
  · intro valid
    simp only [rejection?, allValid_linear_validate, allValid_rotational_validate_iff.2 valid,
      Bool.not_true, Bool.false_eq_true, ↓reduceIte]

/-- Where no step is faulty, every step is accepted. -/
theorem accepted_validate_of_valid {tokens : List Token}
    (valid : ∀ token ∈ tokens, token.fault? = none) : (validate tokens).accepted = tokens := by
  simp only [validate, List.filter_eq_self, Option.isNone_iff_eq_none]
  exact valid

/-- Each faulty step has its finding, in the order of the steps. -/
theorem issues_validate (tokens : List Token) :
    (validate tokens).issues = tokens.filterMap Token.issue? := by
  simp only [issues, validate, List.map_filterMap, Option.map_map]
  rfl

theorem issues_validate_eq_nil_iff {tokens : List Token} :
    (validate tokens).issues = [] ↔ ∀ token ∈ tokens, token.fault? = none := by
  simp only [issues_validate, List.filterMap_eq_nil_iff, Token.issue?, Option.map_eq_none_iff]

theorem validate_append (front back : List Token) :
    validate (front ++ back) =
      ⟨(validate front).accepted ++ (validate back).accepted,
        (validate front).faulty ++ (validate back).faulty⟩ := by
  simp only [validate, List.filter_append, List.filterMap_append]

/-- A class is valid in all steps where it is in the steps of both parts. -/
theorem allValid_validate_append (motionClass : MotionClass) (front back : List Token) :
    (validate (front ++ back)).allValid motionClass =
      ((validate front).allValid motionClass && (validate back).allValid motionClass) := by
  simp only [validate_append, allValid, List.all_append]

/-- What is found in steps does not hang on the steps before and behind them. -/
theorem issues_validate_append (front back : List Token) :
    (validate (front ++ back)).issues = (validate front).issues ++ (validate back).issues := by
  simp only [validate_append, issues, List.map_append]

/-- The same steps further right have the same findings further right. -/
theorem issues_validate_shift (offset : Nat) (tokens : List Token) :
    (validate (tokens.map (Token.shift offset))).issues =
      (validate tokens).issues.map (Diagnostic.shift offset) := by
  simp only [issues_validate, List.filterMap_map, List.map_filterMap]
  congr 1
  funext token
  exact token.issue?_shift offset

end Validation

end Forklift
