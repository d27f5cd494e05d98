import Forklift.Text.Bytes

/-! # Slices

A slice is the part of a text between two byte offsets. There is one only where both offsets stand
between characters of the text and are in order, so a slice never cuts a character.
-/

namespace Forklift.Text

/-- The part of a text from one byte offset up to but excluding another. -/
def slice? (text : String) (start stop : Nat) : Option String :=
  if bounds : (⟨start⟩ : String.Pos.Raw).IsValid text ∧ (⟨stop⟩ : String.Pos.Raw).IsValid text ∧
      start ≤ stop then
    some (text.extract (text.pos ⟨start⟩ bounds.1) (text.pos ⟨stop⟩ bounds.2.1))
  else none

theorem isValid_of_append {text : String} {front back : List Char}
    (split : text.toList = front ++ back) :
    (⟨byteLength front⟩ : String.Pos.Raw).IsValid text := by
  have whole : text = String.ofList front ++ String.ofList back := by
    rw [← String.ofList_append, ← split, String.ofList_toList]
  refine String.Pos.Raw.isValid_iff_exists_append.2 ⟨_, _, whole, ?_⟩
  rw [String.Pos.Raw.ext_iff, String.byteIdx_rawEndPos, utf8ByteSize_ofList]

/-- What stands between two parts of a text is sliced out at their byte lengths. -/
theorem slice?_of_append {text : String} {front part back : List Char}
    (split : text.toList = front ++ (part ++ back)) :
    slice? text (byteLength front) (byteLength front + byteLength part) =
      some (String.ofList part) := by
  have first := isValid_of_append split
  have last : (⟨byteLength front + byteLength part⟩ : String.Pos.Raw).IsValid text := by
    rw [← byteLength_append]
    exact isValid_of_append (split.trans (List.append_assoc front part back).symm)
  rw [slice?, dif_pos ⟨first, last, Nat.le_add_right _ _⟩, Option.some.injEq]
  apply String.toByteArray_inj.1
  have whole : text.toByteArray = (String.ofList front).toByteArray ++
      ((String.ofList part).toByteArray ++ (String.ofList back).toByteArray) := by
    rw [← String.toByteArray_append, ← String.toByteArray_append, ← String.ofList_append,
      ← String.ofList_append, ← split, String.ofList_toList]
  have size (characters : List Char) :
      (String.ofList characters).toByteArray.size = byteLength characters := by
    rw [String.size_toByteArray, utf8ByteSize_ofList]
  rw [String.toByteArray_extract, String.offset_pos, String.offset_pos, whole, ← size front,
    ← Nat.add_zero (String.ofList front).toByteArray.size, Nat.add_assoc,
    ByteArray.extract_append_size_add, Nat.zero_add, ← size part,
    ByteArray.extract_append_eq_left rfl]

end Forklift.Text
