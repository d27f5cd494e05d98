import Forklift.Inventory.File
import Mathlib.Data.List.Forall2
import Mathlib.Data.List.TakeWhile

/-! # File names

The file name of a path is the last part that names something, whatever stands in front of it and however
many slashes and single dots stand behind it. The extension of a name stands behind its last dot, unless
that dot comes first. Small letters and capitals in it are read alike.
-/

namespace Forklift

namespace Path

/-! ## The last part of a path -/

/-- The last part of a path that names something. It stands at the start or behind a slash, and nothing
but slashes and single dots stands behind it. -/
structure IsLastPart (path name : List Char) : Prop where
  ne_nil : name ≠ []
  ne_dot : name ≠ ['.']
  whole : '/' ∉ name
  place : ∃ (front : List Char) (behind : List (List Char)),
    path = front ++ (name ++ behind.flatMap ('/' :: ·)) ∧
    (front = [] ∨ ∃ parents, front = parents ++ ['/']) ∧
    ∀ part ∈ behind, part = [] ∨ part = ['.']

theorem isProper_iff {part : List Char} : isProper part = true ↔ part ≠ [] ∧ part ≠ ['.'] := by
  simp [isProper]

theorem isProper_eq_false_iff {part : List Char} :
    isProper part = false ↔ part = [] ∨ part = ['.'] := by
  by_cases blank : part = [] <;> simp [isProper, blank]

/-- Splitting goes on from the part that is being read. -/
theorem splitParts_eq (parts : List (List Char)) {part : List Char} (whole : '/' ∉ part)
    (rest : List Char) :
    splitParts parts part rest = parts.reverse ++ (part.reverse ++ rest).splitOn '/' := by
  induction rest generalizing parts part with
  | nil =>
    have single : '/' ∉ part.reverse ++ [] := by simpa using whole
    rw [splitParts, List.splitOn_eq_singleton single, List.append_nil, List.reverse_cons]
  | cons c rest ih =>
    rw [splitParts]
    split
    · rename_i slash
      have ended : '/' ∉ part.reverse := by simpa using whole
      rw [ih _ List.not_mem_nil, slash, List.splitOn_append_cons_self_of_not_mem ended]
      simp
    · rename_i other
      have further : '/' ∉ c :: part := by
        rw [List.mem_cons, not_or]
        exact ⟨Ne.symm other, whole⟩
      rw [ih _ further]
      simp

theorem parts_eq (path : String) : parts path = path.toList.splitOn '/' :=
  splitParts_eq [] List.not_mem_nil path.toList

/-- Parts behind a first one are written each behind a slash. -/
theorem intercalate_cons (first : List Char) (more : List (List Char)) :
    ['/'].intercalate (first :: more) = first ++ more.flatMap ('/' :: ·) := by
  induction more generalizing first with
  | nil => simp
  | cons next rest ih => simp [List.intercalate_cons_cons, ih]

/-- Parts in front of a last one are written each in front of a slash. -/
theorem intercalate_append (parents : List (List Char)) (last : List Char)
    (more : List (List Char)) :
    ['/'].intercalate (parents ++ last :: more) =
      parents.flatMap (· ++ ['/']) ++ ['/'].intercalate (last :: more) := by
  induction parents with
  | nil => rfl
  | cons first rest ih =>
    have some_more : rest ++ last :: more ≠ [] := List.append_ne_nil_of_right_ne_nil _ nofun
    rw [List.cons_append, List.intercalate_cons_of_ne_nil some_more, ih, List.flatMap_cons]
    simp only [List.append_assoc]

/-- Parts are read up to a slash. -/
theorem not_mem_of_mem_splitOn {path part : List Char} (member : part ∈ path.splitOn '/') :
    '/' ∉ part := by
  induction path generalizing part with
  | nil =>
    rw [List.splitOn_nil, List.mem_singleton] at member
    rw [member]
    exact List.not_mem_nil
  | cons c rest ih =>
    obtain ⟨first, others, split⟩ := List.exists_cons_of_ne_nil (List.splitOn_ne_nil '/' rest)
    rw [List.splitOn_cons_eq_if_modifyHead, split] at member
    rw [split] at ih
    split at member
    · rcases List.mem_cons.1 member with rfl | later
      · exact List.not_mem_nil
      · exact ih later
    · rename_i other
      rcases List.mem_cons.1 member with rfl | later
      · have rest_whole := ih (List.mem_cons_self ..)
        rw [List.mem_cons, not_or]
        exact ⟨fun slash => other (by rw [← slash]; rfl), rest_whole⟩
      · exact ih (List.mem_cons_of_mem _ later)

/-- The parts of a path around its last part. -/
theorem splitOn_of_isLastPart {path name : List Char} (last : IsLastPart path name) :
    ∃ parents behind, path.splitOn '/' = parents ++ name :: behind ∧
      ∀ part ∈ behind, isProper part = false := by
  obtain ⟨-, -, whole, front, behind, rfl, start, blank⟩ := last
  have none_whole : ∀ part ∈ name :: behind, '/' ∉ part := by
    rw [List.forall_mem_cons]
    refine ⟨whole, ?_⟩
    intro part member
    rcases blank part member with rfl | rfl <;> decide
  have split : (name ++ behind.flatMap ('/' :: ·)).splitOn '/' = name :: behind := by
    rw [← intercalate_cons]
    exact List.splitOn_intercalate '/' none_whole (List.cons_ne_nil _ _)
  have improper : ∀ part ∈ behind, isProper part = false :=
    fun part member => isProper_eq_false_iff.2 (blank part member)
  rcases start with rfl | ⟨parents, rfl⟩
  · exact ⟨[], behind, split, improper⟩
  · refine ⟨parents.splitOn '/', behind, ?_, improper⟩
    rw [List.append_assoc, List.singleton_append, List.splitOn_append_cons_self, split]

/-- The last proper part of a path is the last of its parts that name something. -/
theorem getLast?_filter_parts_iff {path : String} {name : List Char} :
    ((parts path).filter isProper).getLast? = some name ↔ IsLastPart path.toList name := by
  rw [parts_eq]
  constructor
  · intro found
    obtain ⟨earlier, last⟩ := List.getLast?_eq_some_iff.1 found
    obtain ⟨parents, rest, split, -, later⟩ := List.filter_eq_append_iff.1 last
    obtain ⟨skipped, behind, rfl, improper, proper, blank⟩ := List.filter_eq_cons_iff.1 later
    obtain ⟨ne_nil, ne_dot⟩ := isProper_iff.1 proper
    have member : name ∈ path.toList.splitOn '/' := by
      rw [split]
      exact List.mem_append_right _ (List.mem_append_right _ (List.mem_cons_self ..))
    refine ⟨ne_nil, ne_dot, not_mem_of_mem_splitOn member,
      (parents ++ skipped).flatMap (· ++ ['/']), behind, ?_, ?_, ?_⟩
    -- All parts in front of the last proper one are in front of a slash, proper or not.
    · rw [← intercalate_cons, ← intercalate_append, List.append_assoc, ← split,
        List.intercalate_splitOn]
    · rcases List.eq_nil_or_concat (parents ++ skipped) with none_earlier | ⟨before, final, whole⟩
      · rw [none_earlier]
        exact .inl rfl
      · rw [whole]
        exact .inr ⟨before.flatMap (· ++ ['/']) ++ final, by simp⟩
    · intro part later
      have improper := List.filter_eq_nil_iff.1 blank part later
      exact isProper_eq_false_iff.1 (Bool.eq_false_iff.2 improper)
  · intro last
    obtain ⟨parents, behind, split, improper⟩ := splitOn_of_isLastPart last
    have proper : isProper name = true := isProper_iff.2 ⟨last.ne_nil, last.ne_dot⟩
    have blank : behind.filter isProper = [] := by
      simpa [List.filter_eq_nil_iff] using improper
    rw [split, List.filter_append, List.filter_cons_of_pos proper, blank, List.getLast?_append]
    rfl

/-- A path has one last part. -/
theorem IsLastPart.unique {path name other : List Char} (last : IsLastPart path name)
    (also : IsLastPart path other) : name = other := by
  rw [← String.toList_ofList (l := path), ← getLast?_filter_parts_iff] at last also
  exact Option.some.inj (last.symm.trans also)

/-- A last part is its own last part. -/
theorem IsLastPart.self {path name : List Char} (last : IsLastPart path name) :
    IsLastPart name name :=
  ⟨last.ne_nil, last.ne_dot, last.whole, [], [], by simp, .inl rfl, nofun⟩

/-- The directories in front of a path do not matter to its last part. -/
theorem isLastPart_in_directory (parents : List Char) {path name : List Char}
    (last : IsLastPart path name) : IsLastPart (parents ++ '/' :: path) name := by
  obtain ⟨ne_nil, ne_dot, whole, front, behind, rfl, start, blank⟩ := last
  refine ⟨ne_nil, ne_dot, whole, parents ++ '/' :: front, behind, by simp, .inr ?_, blank⟩
  rcases start with rfl | ⟨before, rfl⟩
  · exact ⟨parents, rfl⟩
  · exact ⟨parents ++ '/' :: before, by simp⟩

/-- The file name of a path is its last part, unless that is two dots. -/
theorem fileName?_eq_some_iff {path : String} {name : List Char} :
    fileName? path = some name ↔ IsLastPart path.toList name ∧ name ≠ ['.', '.'] := by
  rw [← getLast?_filter_parts_iff, fileName?]
  split
  · rename_i none_proper
    simp [none_proper]
  · rename_i two_dots
    rw [two_dots, Option.some.injEq]
    exact iff_of_false nofun fun ⟨same, other⟩ => other same.symm
  · rename_i found other proper
    rw [proper]
    constructor
    · rintro ⟨rfl⟩
      exact ⟨rfl, other⟩
    · exact And.left

/-- The last part of a path has the file name of the path. -/
theorem fileName?_of_isLastPart {path : String} {name : List Char}
    (last : IsLastPart path.toList name) : fileName? (String.ofList name) = fileName? path := by
  ext found
  rw [fileName?_eq_some_iff, fileName?_eq_some_iff, String.toList_ofList]
  constructor
  · rintro ⟨also, other⟩
    rw [← last.self.unique also] at other ⊢
    exact ⟨last, other⟩
  · rintro ⟨also, other⟩
    rw [← last.unique also] at other ⊢
    exact ⟨last.self, other⟩

/-! ## Extensions -/

theorem forall_ne_dot {text : List Char} (dotless : '.' ∉ text) :
    ∀ c ∈ text.reverse, decide (c ≠ '.') = true := by
  intro c member
  rw [List.mem_reverse] at member
  exact decide_eq_true (ne_of_mem_of_not_mem member dotless)

/-- A name without dots has no extension. -/
theorem extensionOf?_of_not_mem {name : List Char} (dotless : '.' ∉ name) :
    extensionOf? name = none := by
  have all : name.reverse.takeWhile (· ≠ '.') = name.reverse :=
    List.takeWhile_eq_self_iff.2 (forall_ne_dot dotless)
  rw [extensionOf?, all, List.length_reverse, Nat.sub_self]
  rfl

/-- What stands behind the last dot of a name is its extension, unless nothing stands in front of it. -/
theorem extensionOf?_append (stem : List Char) {extension : List Char} (dotless : '.' ∉ extension) :
    extensionOf? (stem ++ '.' :: extension) = if stem = [] then none else some extension := by
  have backwards : (stem ++ '.' :: extension).reverse =
      extension.reverse ++ '.' :: stem.reverse := by simp
  have ending : (stem ++ '.' :: extension).reverse.takeWhile (· ≠ '.') = extension.reverse := by
    rw [backwards, List.takeWhile_append_of_pos (forall_ne_dot dotless)]
    simp
  have front : (stem ++ '.' :: extension).length - extension.reverse.length = stem.length + 1 := by
    rw [List.length_append, List.length_cons, List.length_reverse]
    omega
  simp only [extensionOf?, ending, front, List.reverse_reverse]
  cases stem with
  | nil => rfl
  | cons first rest => simp

/-- The extension of a name stands behind its last dot, which is not its first character. -/
theorem extensionOf?_eq_some_iff {name extension : List Char} :
    extensionOf? name = some extension ↔
      ∃ stem, stem ≠ [] ∧ name = stem ++ '.' :: extension ∧ '.' ∉ extension := by
  constructor
  · intro found
    have dotted : '.' ∈ name.reverse := by
      by_contra dotless
      rw [List.mem_reverse] at dotless
      rw [extensionOf?_of_not_mem dotless] at found
      cases found
    -- The last dot is the first one that is met from behind.
    obtain ⟨behind, front, split, dotless⟩ := List.eq_append_cons_of_mem dotted
    have whole : name = front.reverse ++ '.' :: behind.reverse := by
      rw [← List.reverse_inj, split]
      simp
    rw [← List.mem_reverse] at dotless
    rw [whole, extensionOf?_append _ dotless] at found
    split at found
    · cases found
    · rename_i some_front
      cases found
      exact ⟨front.reverse, some_front, whole, dotless⟩
  · rintro ⟨stem, some_front, rfl, dotless⟩
    rw [extensionOf?_append stem dotless, if_neg some_front]

/-- Whether the last part of a path has an extension: a last dot that is not its first character, with
the extension behind it. -/
def HasExtension (path : String) (extension : List Char) : Prop :=
  ∃ stem, stem ≠ [] ∧ '.' ∉ extension ∧ IsLastPart path.toList (stem ++ '.' :: extension)

/-- The last part of a path decides its extension. -/
theorem hasExtension_iff {path : String} {name extension : List Char}
    (last : IsLastPart path.toList name) :
    HasExtension path extension ↔
      ∃ stem, stem ≠ [] ∧ '.' ∉ extension ∧ name = stem ++ '.' :: extension := by
  constructor
  · rintro ⟨stem, some_front, dotless, also⟩
    exact ⟨stem, some_front, dotless, last.unique also⟩
  · rintro ⟨stem, some_front, dotless, rfl⟩
    exact ⟨stem, some_front, dotless, last⟩

/-- The directories in front of a path do not matter to its extension, whatever dots they contain. -/
theorem hasExtension_in_directory (parents : String) {path : String} {name extension : List Char}
    (last : IsLastPart path.toList name) :
    HasExtension (parents ++ "/" ++ path) extension ↔ HasExtension path extension := by
  have deeper : IsLastPart (parents ++ "/" ++ path).toList name := by
    simpa using isLastPart_in_directory parents.toList last
  rw [hasExtension_iff deeper, hasExtension_iff last]

/-- What stands behind the last dot is read; behind two dots that is nothing. -/
theorem getD_extension?_of_hasExtension {path : String} {extension : List Char}
    (ending : HasExtension path extension) : (extension? path).getD [] = extension := by
  obtain ⟨stem, some_front, dotless, last⟩ := ending
  by_cases dots : stem ++ '.' :: extension = ['.', '.']
  · have none_found : fileName? path = none := by
      cases found : fileName? path with
      | none => rfl
      | some name =>
        obtain ⟨also, other⟩ := fileName?_eq_some_iff.1 found
        exact absurd (also.unique last ▸ dots) other
    obtain ⟨first, rest, rfl⟩ := List.exists_cons_of_ne_nil some_front
    have nothing : extension = [] := by
      rw [List.cons_append, List.cons.injEq] at dots
      cases rest with
      | nil => exact (List.cons.inj dots.2).2
      | cons second more => simp at dots
    rw [extension?, none_found, nothing]
    rfl
  · rw [extension?, fileName?_eq_some_iff.2 ⟨last, dots⟩, Option.bind_some,
      extensionOf?_append stem dotless, if_neg some_front]
    rfl

theorem hasExtension_of_extension? {path : String} {extension : List Char}
    (read : extension? path = some extension) : HasExtension path extension := by
  obtain ⟨name, found, ending⟩ := Option.bind_eq_some_iff.1 read
  obtain ⟨last, -⟩ := fileName?_eq_some_iff.1 found
  obtain ⟨stem, some_front, rfl, dotless⟩ := extensionOf?_eq_some_iff.1 ending
  exact ⟨stem, some_front, dotless, last⟩

/-- The extension of a path is that of its last part. -/
theorem extension?_of_isLastPart {path : String} {name : List Char}
    (last : IsLastPart path.toList name) : extension? (String.ofList name) = extension? path := by
  rw [extension?, extension?, fileName?_of_isLastPart last]

/-- A path without a last part has no extension. -/
theorem extension?_of_not_isLastPart {path : String}
    (empty : ∀ name, ¬ IsLastPart path.toList name) : extension? path = none := by
  rw [extension?, Option.bind_eq_none_iff]
  intro name found
  exact absurd (fileName?_eq_some_iff.1 found).1 (empty name)

/-- The extension of a path is that of its file name. -/
theorem extension?_fileName (path : String) :
    extension? (String.ofList ((fileName? path).getD [])) = extension? path := by
  cases found : fileName? path with
  | none =>
    rw [extension?, extension?, found]
    rfl
  | some name => exact extension?_of_isLastPart (fileName?_eq_some_iff.1 found).1

/-- The extension of a path in small letters, or nothing where there is none. -/
def shownExtension (path : String) : List Char :=
  ((extension? path).getD []).map Char.toLower

theorem shownExtension_of_hasExtension {path : String} {extension : List Char}
    (ending : HasExtension path extension) : shownExtension path = extension.map Char.toLower := by
  rw [shownExtension, getD_extension?_of_hasExtension ending]

theorem shownExtension_of_not_hasExtension {path : String}
    (bare : ∀ extension, ¬ HasExtension path extension) : shownExtension path = [] := by
  rw [shownExtension]
  cases read : extension? path with
  | none => rfl
  | some extension => exact absurd (hasExtension_of_extension? read) (bare extension)

end Path

/-! ## Letters in either case -/

/-- Whether a text spells a word of small letters, each of them small or capital. -/
def SpellsInAnyCase (word text : List Char) : Prop :=
  List.Forall₂ (fun letter c => c = letter ∨ c = letter.toUpper) word text

theorem isLower_iff {c : Char} : c.isLower = true ↔ 97 ≤ c.toNat ∧ c.toNat ≤ 122 := by
  change (decide ('a'.val ≤ c.val) && decide (c.val ≤ 'z'.val)) = true ↔ _
  rw [Bool.and_eq_true, decide_eq_true_iff, decide_eq_true_iff, UInt32.le_iff_toNat_le,
    UInt32.le_iff_toNat_le]
  exact Iff.rfl

/-- The capital of a small letter stands 32 places in front of it. -/
theorem toNat_toUpper {letter : Char} (small : letter.isLower = true) :
    letter.toUpper.toNat = letter.toNat - 32 := by
  obtain ⟨low, high⟩ := isLower_iff.1 small
  have between : 'a'.val ≤ letter.val ∧ letter.val ≤ 'z'.val :=
    ⟨UInt32.le_iff_toNat_le.2 low, UInt32.le_iff_toNat_le.2 high⟩
  have moved : letter.toUpper.val = letter.val + ('A'.val - 'a'.val) := by
    delta Char.toUpper
    rw [dif_pos between]
  -- The step back is taken as a step forward that goes around.
  have step : ('A'.val - 'a'.val).toNat = 2 ^ 32 - 32 := by decide
  rw [← Char.toNat_val, moved, UInt32.toNat_add, step, Char.toNat_val]
  omega

theorem toNat_toLower_of_isUpper {c : Char} (low : 65 ≤ c.toNat) (high : c.toNat ≤ 90) :
    c.toLower.toNat = c.toNat + 32 := by
  have between : c.val ≥ 'A'.val ∧ c.val ≤ 'Z'.val :=
    ⟨UInt32.le_iff_toNat_le.2 low, UInt32.le_iff_toNat_le.2 high⟩
  have moved : c.toLower.val = c.val + ('a'.val - 'A'.val) := congrArg Char.val (dif_pos between)
  have step : ('a'.val - 'A'.val).toNat = 32 := by decide
  rw [← Char.toNat_val, moved, UInt32.toNat_add, step, Char.toNat_val]
  omega

theorem toLower_of_not_isUpper {c : Char} (other : ¬ (65 ≤ c.toNat ∧ c.toNat ≤ 90)) :
    c.toLower = c := by
  refine dif_neg ?_
  rintro ⟨low, high⟩
  exact other ⟨UInt32.le_iff_toNat_le.1 low, UInt32.le_iff_toNat_le.1 high⟩

/-- A small letter is the small letter of itself and of its capital alone. -/
theorem toLower_eq_iff {letter c : Char} (small : letter.isLower = true) :
    c.toLower = letter ↔ c = letter ∨ c = letter.toUpper := by
  obtain ⟨low, high⟩ := isLower_iff.1 small
  simp only [← Char.toNat_inj, toNat_toUpper small]
  by_cases capital : 65 ≤ c.toNat ∧ c.toNat ≤ 90
  · rw [toNat_toLower_of_isUpper capital.1 capital.2]
    omega
  · rw [toLower_of_not_isUpper capital]
    omega

/-- A text spells a word where its small letters do. -/
theorem map_toLower_eq_iff {word text : List Char} (small : ∀ letter ∈ word, letter.isLower = true) :
    text.map Char.toLower = word ↔ SpellsInAnyCase word text := by
  induction word generalizing text with
  | nil => simp [SpellsInAnyCase]
  | cons letter rest ih =>
    obtain ⟨first, later⟩ := List.forall_mem_cons.1 small
    cases text with
    | nil => simp [SpellsInAnyCase]
    | cons c more =>
      rw [List.map_cons, List.cons.injEq, toLower_eq_iff first, ih later, SpellsInAnyCase,
        SpellsInAnyCase, List.forall₂_cons]

end Forklift
