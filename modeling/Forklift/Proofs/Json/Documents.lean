import Forklift.Json.Record
import Forklift.Proofs.Json.Trees

/-! # Documents

A document is a value written with the names of each object in order, one item or member to a line. Its
tree has the items of the value in their places, and under each name what the value has there. So the
fields of a record are found in a document of it, wherever the order has put them.
-/

namespace Forklift.Json

/-- The tree of the document of a value. -/
def documentTree (value : Json) : Tree :=
  value.sortNames.tree

/-! ## Names in order -/

theorem perm_insertMember (member : String × Json) (members : List (String × Json)) :
    (insertMember member members).Perm (member :: members) := by
  induction members with
  | nil => exact .refl _
  | cons head rest ih =>
    rw [insertMember]
    split
    · exact .refl _
    · exact (ih.cons head).trans (.swap member head rest)

/-- Members are put in order, and none is lost or added. -/
theorem perm_sortNamesInMembers (members : List (String × Json)) :
    (sortNamesInMembers members).Perm
      (members.map fun member => (member.1, member.2.sortNames)) := by
  induction members with
  | nil => exact .refl _
  | cons member rest ih => exact (perm_insertMember _ _).trans (ih.cons _)

theorem sortNamesInItems_eq (items : List Json) : sortNamesInItems items = items.map sortNames := by
  induction items with
  | nil => rfl
  | cons item rest ih => rw [sortNamesInItems, ih, List.map_cons]

theorem treesOfItems_eq (items : List Json) : treesOfItems items = items.map tree := by
  induction items with
  | nil => rfl
  | cons item rest ih => rw [treesOfItems, ih, List.map_cons]

theorem treesOfMembers_eq (members : List (String × Json)) :
    treesOfMembers members = members.map fun member => (some member.1, member.2.tree) := by
  induction members with
  | nil => rfl
  | cons member rest ih => rw [treesOfMembers, ih, List.map_cons]

/-- The order of names does not matter to the numbers of a value. -/
theorem Plain.sortNames {value : Json} (plain : value.Plain) : value.sortNames.Plain := by
  induction plain with
  | null => exact .null
  | bool b => exact .bool b
  | nat n => exact .nat n
  | string s => exact .string s
  | array _ ih =>
    rw [Json.sortNames, sortNamesInItems_eq]
    exact .array (List.forall_mem_map.2 ih)
  | @object members _ ih =>
    rw [Json.sortNames]
    refine .object ?_
    intro sorted member
    rw [(perm_sortNamesInMembers members).mem_iff] at member
    obtain ⟨original, inside, rfl⟩ := List.mem_map.1 member
    exact ih original inside

/-! ## Fields of a document -/

/-- The order of members does not matter to the fields of a record. -/
theorem Tree.fields?_of_perm {members others : List (Option String × Tree)}
    (perm : members.Perm others) (names : List String) :
    (Tree.object members).fields? names = (Tree.object others).fields? names := by
  have named : members.all (·.1.isSome) = others.all (·.1.isSome) := perm.all_eq
  rw [fields?, fields?, named]
  congr 2
  funext name
  -- Members of one name are as many in both; only where there is one does it matter which.
  have same := perm.filter (·.1 == some name)
  generalize members.filter (·.1 == some name) = found at same ⊢
  generalize others.filter (·.1 == some name) = also at same ⊢
  cases found with
  | nil => rw [same.nil_eq]
  | cons member rest =>
    cases rest with
    | nil => rw [same.singleton_eq]
    | cons second more =>
      have several := same.length_eq
      cases also with
      | nil => simp at several
      | cons other further =>
        cases further with
        | nil => simp at several
        | cons _ _ => rfl

/-- The tree of a document of a list has the trees of its parts. -/
theorem documentTree_map {α : Type} (toJson : α → Json) (parts : List α) :
    (array (parts.map toJson)).documentTree =
      .array (parts.map fun part => (toJson part).documentTree) := by
  rw [documentTree, sortNames, sortNamesInItems_eq, tree, treesOfItems_eq, List.map_map,
    List.map_map]
  rfl

/-- A field of a document is what the value has under the name. -/
theorem fields?_documentTree (members : List (String × Json)) (names : List String) :
    (object members).documentTree.fields? names =
      (Tree.object (members.map fun member => (some member.1, member.2.documentTree))).fields?
        names := by
  have sorted := (perm_sortNamesInMembers members).map
    fun member => ((some member.1, member.2.tree) : Option String × Tree)
  rw [List.map_map] at sorted
  rw [documentTree, sortNames, tree, treesOfMembers_eq]
  exact Tree.fields?_of_perm sorted names

/-- The text of a document has the tree of the document. -/
theorem ofText?_document {value : Json} (plain : value.Plain) :
    Tree.ofText? value.sortNames.indented = some value.documentTree := by
  have noBlanks : ([] : List Char).all Token.isBlank = true := rfl
  have read := Tree.ofText?_spell isBlank_indented plain.sortNames 0 noBlanks
  rwa [List.append_nil] at read

end Forklift.Json
