/-! # Output

What is printed goes to two channels: results to one, and remarks about them to the other. Each channel
holds its lines in their order, and outputs are put one after the other on both at once.
-/

namespace Forklift.Terminal

/-- What is printed, in lines that may themselves hold line breaks. -/
structure Output where
  results : List String
  remarks : List String
deriving DecidableEq, Repr

namespace Output

def empty : Output :=
  ⟨[], []⟩

/-- Lines for the channel of results. -/
def ofResults (lines : List String) : Output :=
  ⟨lines, []⟩

/-- Lines for the channel of remarks. -/
def ofRemarks (lines : List String) : Output :=
  ⟨[], lines⟩

instance : Append Output where
  append first second := ⟨first.results ++ second.results, first.remarks ++ second.remarks⟩

/-- Outputs in their order. -/
def join (outputs : List Output) : Output :=
  outputs.foldr (· ++ ·) empty

@[simp] theorem append_results (first second : Output) :
    (first ++ second).results = first.results ++ second.results := rfl

@[simp] theorem append_remarks (first second : Output) :
    (first ++ second).remarks = first.remarks ++ second.remarks := rfl

@[simp] theorem join_results (outputs : List Output) :
    (join outputs).results = outputs.flatMap results := by
  induction outputs with
  | nil => rfl
  | cons output rest ih => simpa [join] using ih

@[simp] theorem join_remarks (outputs : List Output) :
    (join outputs).remarks = outputs.flatMap remarks := by
  induction outputs with
  | nil => rfl
  | cons output rest ih => simpa [join] using ih

/-- Lines as a text in which each is ended by a line break. -/
def textOf (lines : List String) : String :=
  lines.foldr (fun line rest => line ++ "\n" ++ rest) ""

end Output

end Forklift.Terminal
