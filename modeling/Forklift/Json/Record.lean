import Forklift.Json.Tree

/-! # Records in JSON

A record is an object with declared member names, or an array that holds all its fields in the
declared order. Undeclared members are passed over whatever they hold; a declared one must not be
repeated. A case of an enumeration is its name, or an object that maps the name to null.
-/

namespace Forklift.Json.Tree

/-- The fields of a record by their declared names; a member that is absent leaves its field out. -/
def fields? (names : List String) : Tree → Option (List (Option Tree))
  | array items => if items.length = names.length then some (items.map some) else none
  | object members =>
    if members.all (·.1.isSome) then
      names.mapM fun name =>
        match members.filter (·.1 == some name) with
        | [] => some none
        | [(_, tree)] => some (some tree)
        | _ => none
    else none
  | _ => none

/-- A field that may be absent or null. -/
def optional? {α : Type} (decode : Tree → Option α) : Option Tree → Option (Option α)
  | none | some null => some none
  | some tree => (decode tree).map some

/-- The name of a case of an enumeration. -/
def case? : Tree → Option String
  | string text => text
  | object [(name, null)] => name
  | _ => none

def text? : Tree → Option String
  | string text => text
  | _ => none

/-- A natural number of at most 64 bits, written without sign, point and exponent. -/
def nat64? : Tree → Option Nat
  | number n => n.toNat?.filter (· < UInt64.size)
  | _ => none

end Forklift.Json.Tree
