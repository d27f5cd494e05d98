import Forklift.Command.Action
import Forklift.Command.Gate
import Forklift.Command.TokenStream
import Forklift.Command.Validation

/-! # Interpretation

A command is interpreted in whole or not at all: the text must be well formed, then every turn must
be in range, and then each step becomes one action. An accepted command has an action. What validation
has found is passed on in each case, and is nothing where the command is accepted.
-/

namespace Forklift

/-- What a command text means. -/
inductive Interpretation where
  | accepted (actions : List Action) (diagnostics : List Diagnostic)
  | rejected (reason : Rejection) (diagnostics : List Diagnostic)
deriving DecidableEq

/-- Interprets a command text. The ranges are looked at only if the format holds. -/
def interpret (command : String) : Interpretation :=
  match Violation.first? command with
  | some violation => .rejected .format [violation.diagnostic]
  | none =>
    let validation := validate (tokens command)
    match validation.rejection? with
    | some reason => .rejected reason validation.issues
    | none =>
      let actions := validation.accepted.map Action.ofToken
      -- A well-formed command has a step, so this guard is never needed.
      if actions.isEmpty then .rejected .format validation.issues
      else .accepted actions validation.issues

namespace Interpretation

def ok : Interpretation → Bool
  | accepted _ _ => true
  | rejected _ _ => false

/-- The actions of an accepted command; a rejected one has none. -/
def actions : Interpretation → List Action
  | accepted actions _ => actions
  | rejected _ _ => []

def rejection? : Interpretation → Option Rejection
  | accepted _ _ => none
  | rejected reason _ => some reason

/-- What has been found about the command. -/
def diagnostics : Interpretation → List Diagnostic
  | accepted _ diagnostics => diagnostics
  | rejected _ diagnostics => diagnostics

/-- The actions, or the reason for the rejection. -/
def result : Interpretation → Except Rejection (List Action)
  | accepted actions _ => .ok actions
  | rejected reason _ => .error reason

end Interpretation

/-- Nothing has been found about a command that is accepted: whatever validation finds is a reason to
reject. -/
theorem diagnostics_of_accepted {command : String} {actions : List Action}
    {diagnostics : List Diagnostic} (accepted : interpret command = .accepted actions diagnostics) :
    diagnostics = [] := by
  unfold interpret at accepted
  split at accepted
  · contradiction
  · dsimp only at accepted
    split at accepted
    · contradiction
    · rename_i valid
      split at accepted
      · contradiction
      · obtain ⟨-, rfl⟩ := Interpretation.accepted.inj accepted
        rw [Validation.issues_validate_eq_nil_iff]
        exact Validation.rejection?_validate_eq_none_iff.1 valid

end Forklift
