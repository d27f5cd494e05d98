import Forklift.Diagnostic.Code

/-! # Rejections

Why a command or a simulation is rejected as a whole. Each reason has one fixed message for the
operator; what is wrong with each step is left to diagnostics.
-/

namespace Forklift

/-- Why a command or a simulation was rejected. -/
inductive Rejection where
  /-- No forklift is selected. -/
  | selectionMissing
  /-- The text is not a command. -/
  | format
  /-- Some distance is out of range. -/
  | linearRange
  /-- Some turn is out of range, and all distances are in range. -/
  | rotationalRange
deriving DecidableEq, Repr

namespace Rejection

def all : List Rejection :=
  [selectionMissing, format, linearRange, rotationalRange]

def name : Rejection → String
  | selectionMissing => "selection_missing"
  | format => "format"
  | linearRange => "linear_range"
  | rotationalRange => "rotational_range"

/-- The code that sums up the rejection. -/
def code : Rejection → Code
  | selectionMissing => .selectionMissing
  | format => .invalidFormat
  | linearRange => .distanceOutOfRange
  | rotationalRange => .turnRejected

/-- What the operator is told. -/
def message : Rejection → String
  | selectionMissing => "Please select a forklift before simulating."
  | format => "Invalid command format. Use like: F10R90L90B5"
  | linearRange => "Invalid meter command: metres must be 0 or greater."
  | rotationalRange =>
    "Invalid turn command: degrees must be a multiple of 90, between 0 and 360."

end Rejection

end Forklift
