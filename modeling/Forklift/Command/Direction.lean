/-! # Directions

A step drives forward or backward, or turns left or right. Each direction has one upper-case command
letter; driving is linear and measured in metres, turning is rotational and measured in degrees.
-/

namespace Forklift

/-- Which way a step moves the forklift. -/
inductive Direction where
  | forward
  | backward
  | turnLeft
  | turnRight
deriving DecidableEq, Repr

/-- The two families of steps, which have different range rules. -/
inductive MotionClass where
  | linear
  | rotational
deriving DecidableEq, Repr

namespace MotionClass

def all : List MotionClass :=
  [linear, rotational]

def name : MotionClass → String
  | linear => "linear"
  | rotational => "rotational"

end MotionClass

namespace Direction

def all : List Direction :=
  [forward, backward, turnLeft, turnRight]

def name : Direction → String
  | forward => "forward"
  | backward => "backward"
  | turnLeft => "turn_left"
  | turnRight => "turn_right"

/-- The command letter of a direction. -/
def letter : Direction → Char
  | forward => 'F'
  | backward => 'B'
  | turnLeft => 'L'
  | turnRight => 'R'

/-- The direction with a given command letter, in either case. -/
def ofLetter? (c : Char) : Option Direction :=
  match c with
  | 'F' | 'f' => some forward
  | 'B' | 'b' => some backward
  | 'L' | 'l' => some turnLeft
  | 'R' | 'r' => some turnRight
  | _ => none

def motionClass : Direction → MotionClass
  | forward | backward => .linear
  | turnLeft | turnRight => .rotational

/-- The unit in which a step of this direction is measured. -/
def unit (direction : Direction) : String :=
  match direction.motionClass with
  | .linear => "metres"
  | .rotational => "degrees"

theorem ofLetter?_of_isDigit {c : Char} (digit : c.isDigit = true) : ofLetter? c = none := by
  unfold ofLetter?
  split <;> simp_all

/-- Every letter of a direction, in either case, takes one byte. -/
theorem utf8Size_of_ofLetter? {c : Char} {direction : Direction}
    (found : ofLetter? c = some direction) : c.utf8Size = 1 := by
  unfold ofLetter? at found
  split at found
  case h_9 => contradiction
  all_goals rfl

/-- No longer character is a letter of a direction. -/
theorem ofLetter?_of_utf8Size_ne {c : Char} (wide : c.utf8Size ≠ 1) : ofLetter? c = none := by
  rw [Option.eq_none_iff_forall_ne_some]
  intro direction letter
  exact wide (utf8Size_of_ofLetter? letter)

@[simp] theorem ofLetter?_letter (direction : Direction) :
    ofLetter? direction.letter = some direction := by
  cases direction <;> rfl

end Direction

/-- The command letters are upper case: a lower-case letter starts no step. -/
def isCommandLetter (c : Char) : Bool :=
  c = 'F' || c = 'B' || c = 'L' || c = 'R'

theorem isCommandLetter_iff {c : Char} :
    isCommandLetter c = true ↔ ∃ direction : Direction, direction.letter = c := by
  constructor
  · intro upper
    simp only [isCommandLetter, Bool.or_eq_true, decide_eq_true_eq] at upper
    rcases upper with ((rfl | rfl) | rfl) | rfl
    · exact ⟨.forward, rfl⟩
    · exact ⟨.backward, rfl⟩
    · exact ⟨.turnLeft, rfl⟩
    · exact ⟨.turnRight, rfl⟩
  · rintro ⟨direction, rfl⟩
    cases direction <;> rfl

end Forklift
