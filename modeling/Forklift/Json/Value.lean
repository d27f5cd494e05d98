import Forklift.Json.Numeral

/-! # JSON values

A value is a tree. An object keeps its members in the order in which they were written; where a name
is repeated, the last member of that name is the one that counts.
-/

namespace Forklift

/-- A JSON value. -/
inductive Json where
  | null
  | bool (b : Bool)
  | number (n : Json.Numeral)
  | string (s : String)
  | array (items : List Json)
  | object (members : List (String × Json))
deriving Inhabited

namespace Json

/-- The number `n`. -/
def nat (n : Nat) : Json :=
  number (.ofNat n)

/-- The member of a name that counts. -/
def member? (name : String) (members : List (String × Json)) : Option Json :=
  (members.reverse.find? (·.1 == name)).map (·.2)

/-- A member counts unless a later one has its name. -/
theorem member?_cons (name : String) (member : String × Json) (rest : List (String × Json)) :
    member? name (member :: rest) =
      (member? name rest).or (if member.1 = name then some member.2 else none) := by
  have alone : ([member].find? (·.1 == name)).map (·.2) =
      if member.1 = name then some member.2 else none := by
    by_cases same : member.1 = name <;> simp [same]
  rw [member?, List.reverse_cons, List.find?_append, Option.map_or, alone, member?]

def isNull : Json → Bool
  | null => true
  | _ => false

theorem isNull_iff {value : Json} : value.isNull = true ↔ value = null := by
  cases value <;> simp [isNull]

/-- The text of a string value. -/
def text? : Json → Option String
  | string s => some s
  | _ => none

/-- An object whose absent members are left out. -/
def objectOf (members : List (String × Option Json)) : Json :=
  object (members.filterMap fun (name, value?) => value?.map (name, ·))

/-- Puts a member before the first one that has a later name. -/
def insertMember (member : String × Json) : List (String × Json) → List (String × Json)
  | [] => [member]
  | head :: rest =>
    if member.1 < head.1 then member :: head :: rest else head :: insertMember member rest

mutual

/-- The same value with the members of every object in the order of their names. -/
def sortNames : Json → Json
  | array items => array (sortNamesInItems items)
  | object members => object (sortNamesInMembers members)
  | other => other
termination_by structural value => value

/-- `sortNames` for each item of an array. -/
def sortNamesInItems : List Json → List Json
  | [] => []
  | item :: rest => sortNames item :: sortNamesInItems rest
termination_by structural items => items

/-- `sortNames` for each member of an object, and the members in order. -/
def sortNamesInMembers : List (String × Json) → List (String × Json)
  | [] => []
  | (name, value) :: rest => insertMember (name, sortNames value) (sortNamesInMembers rest)
termination_by structural members => members

end

end Json

end Forklift
