import Forklift.Command.Validation

/-! # Validation in one pass

The same validation as a loop over the steps. It keeps a flag for each class of motion, the valid steps
and the findings so far, and it goes on to the last step whatever it has found.
-/

namespace Forklift

/-- What a pass over steps has come to. -/
structure ValidationPass where
  linearOk : Bool
  rotationalOk : Bool
  accepted : List Token
  issues : List Diagnostic
deriving DecidableEq

namespace ValidationPass

/-- Before the first step nothing is wrong. -/
def start : ValidationPass :=
  ⟨true, true, [], []⟩

/-- Notes that some step of a class is faulty. -/
def refuse (pass : ValidationPass) : MotionClass → ValidationPass
  | .linear => { pass with linearOk := false }
  | .rotational => { pass with rotationalOk := false }

/-- Looks at one more step. -/
def step (pass : ValidationPass) (token : Token) : ValidationPass :=
  match token.issue? with
  | none => { pass with accepted := pass.accepted ++ [token] }
  | some issue =>
    { pass with issues := pass.issues ++ [issue] }.refuse token.direction.motionClass

/-- Looks at all steps, one after the other. -/
def ofTokens (tokens : List Token) : ValidationPass :=
  tokens.foldl step start

/-- What a pass has come to where steps are sorted. -/
def ofValidation (validation : Validation) : ValidationPass where
  linearOk := validation.allValid .linear
  rotationalOk := validation.allValid .rotational
  accepted := validation.accepted
  issues := validation.issues

/-- One more step leaves a pass where sorting one step more does. -/
theorem step_ofValidation (tokens : List Token) (token : Token) :
    (ofValidation (validate tokens)).step token = ofValidation (validate (tokens ++ [token])) := by
  simp only [ofValidation, Validation.validate_append]
  cases found : token.fault? with
  | none =>
    have sorted : validate [token] = ⟨[token], []⟩ := by
      simp [validate, found]
    simp [step, Token.issue?, found, sorted, Validation.issues, Validation.allValid]
  | some fault =>
    have sorted : validate [token] = ⟨[], [(token, fault)]⟩ := by
      simp [validate, found]
    cases family : token.direction.motionClass <;>
      simp [step, Token.issue?, found, sorted, Validation.issues, Validation.allValid, refuse, family]

/-- A pass comes to what sorting the steps comes to. -/
theorem ofTokens_eq (tokens : List Token) : ofTokens tokens = ofValidation (validate tokens) := by
  have further (before after : List Token) :
      after.foldl step (ofValidation (validate before)) =
        ofValidation (validate (before ++ after)) := by
    induction after generalizing before with
    | nil => rw [List.foldl_nil, List.append_nil]
    | cons token rest ih =>
      rw [List.foldl_cons, step_ofValidation, ih, List.append_assoc, List.singleton_append]
  exact further [] tokens

end ValidationPass

end Forklift
