import Forklift.Diagnostic.Json
import Forklift.Proofs.Json.Trees

/-! # Diagnostics read back

A diagnostic is read back from its text as it was: what it lacks stays absent, an empty context stays
empty, and the ends of a span are exact as far as 64 bits reach. So no two diagnostics share a text, and
whatever has been read from another spelling is settled from then on.
-/

namespace Forklift

namespace Context

/-- An entry whose key comes behind all others is put at the end. -/
theorem insertEntry_of_forall_lt {key : String} (value : String) {entries : List (String × String)}
    (behind : ∀ entry ∈ entries, entry.1 < key) :
    insertEntry key value entries = entries ++ [(key, value)] := by
  induction entries with
  | nil => rfl
  | cons head rest ih =>
    obtain ⟨k, v⟩ := head
    obtain ⟨before, behind⟩ := List.forall_mem_cons.mp behind
    have notBehind : ¬ key < k := String.lt_asymm before
    have other : key ≠ k := fun same => String.lt_irrefl k (same ▸ before)
    rw [insertEntry, if_neg notBehind, if_neg other, ih behind, List.cons_append]

/-- Entries that come behind those of a map in ascending order are put at its end. -/
theorem entries_foldl_insert {rest : List (String × String)} {start : Context}
    (ordered : (start.entries ++ rest).Pairwise (·.1 < ·.1)) :
    (rest.foldl (fun context (key, value) => context.insert key value) start).entries =
      start.entries ++ rest := by
  induction rest generalizing start with
  | nil => exact (List.append_nil _).symm
  | cons entry more ih =>
    obtain ⟨key, value⟩ := entry
    have behind : ∀ other ∈ start.entries, other.1 < key := by
      intro other member
      exact (List.pairwise_append.mp ordered).2.2 other member _ List.mem_cons_self
    have inserted : (start.insert key value).entries = start.entries ++ [(key, value)] :=
      insertEntry_of_forall_lt value behind
    have together : (start.insert key value).entries ++ more =
        start.entries ++ (key, value) :: more := by
      rw [inserted, List.append_assoc, List.singleton_append]
    have further : ((start.insert key value).entries ++ more).Pairwise (·.1 < ·.1) := by
      rwa [together]
    rw [List.foldl_cons, ih further, together]

/-- The entries of a map, taken one after the other, make up the map. -/
theorem ofList_entries (context : Context) : ofList context.entries = context := by
  have same : (ofList context.entries).entries = context.entries :=
    @entries_foldl_insert _ empty context.ordered
  cases context
  cases made : ofList _
  rw [made] at same
  cases same
  rfl

theorem plain_toJson (context : Context) : context.toJson.Plain := by
  refine .object ?_
  intro member mem
  obtain ⟨entry, -, rfl⟩ := List.mem_map.mp mem
  exact .string _

theorem mapM_entry? (entries : List (String × String)) :
    (Json.treesOfMembers (entries.map fun (key, value) => (key, .string value))).mapM
      ofTree?.entry? = some entries := by
  induction entries with
  | nil => rfl
  | cons entry rest ih =>
    obtain ⟨key, value⟩ := entry
    have head : ofTree?.entry? (some key, (Json.string value).tree) = some (key, value) := rfl
    rw [List.map_cons, Json.treesOfMembers, List.mapM_cons, head, ih]
    rfl

theorem ofTree?_toJson (context : Context) : ofTree? context.toJson.tree = some context := by
  rw [toJson, Json.tree, ofTree?, mapM_entry?, Option.map_some, ofList_entries]

end Context

namespace Severity

theorem ofTree?_toJson (severity : Severity) : ofTree? severity.toJson.tree = some severity := by
  cases severity <;> rfl

end Severity

theorem nat64?_nat {n : Nat} (fits : n < UInt64.size) : (Json.nat n).tree.nat64? = some n := by
  have value : (Json.Numeral.ofNat n).toNat? = some n := by
    rw [Json.Numeral.ofNat, Json.Numeral.toNat?, Nat.ofDigitChars_ten_toDigits]
  rw [Json.nat, Json.tree, Json.Tree.nat64?, value]
  simp [fits]

theorem lt_of_nat64? {tree : Json.Tree} {n : Nat} (read : tree.nat64? = some n) :
    n < UInt64.size := by
  cases tree with
  | number numeral =>
    rw [Json.Tree.nat64?, Option.filter_eq_some_iff] at read
    exact of_decide_eq_true read.2
  | _ => cases read

namespace Span

/-- Whether both ends take at most 64 bits. -/
def Fits (span : Span) : Prop :=
  span.start < UInt64.size ∧ span.stop < UInt64.size

theorem plain_toJson (span : Span) : span.toJson.Plain := by
  simp [toJson]

theorem ofTree?_toJson {span : Span} (fits : span.Fits) : ofTree? span.toJson.tree = some span := by
  have start := nat64?_nat fits.1
  have stop := nat64?_nat fits.2
  have fields : span.toJson.tree.fields? ["start", "end"] =
      some [some (Json.nat span.start).tree, some (Json.nat span.stop).tree] := rfl
  simp [ofTree?, fields, start, stop]

theorem fits_of_ofTree? {tree : Json.Tree} {span : Span} (read : ofTree? tree = some span) :
    span.Fits := by
  simp only [ofTree?, Option.bind_eq_bind, Option.bind_eq_some_iff] at read
  obtain ⟨fields, -, read⟩ := read
  split at read
  · simp only [Option.bind_eq_some_iff, Option.pure_def, Option.some.injEq] at read
    obtain ⟨_, -, start, startRead, _, -, stop, stopRead, rfl⟩ := read
    exact ⟨lt_of_nat64? startRead, lt_of_nat64? stopRead⟩
  · cases read

end Span

/-- A part that may be absent is read back if it is never written as null. -/
theorem Json.Tree.optional?_map {α : Type} {decode : Tree → Option α} {encode : α → Json}
    {part : Option α} (read : ∀ value ∈ part, decode (encode value).tree = some value)
    (nonnull : ∀ value, (encode value).tree ≠ .null) :
    optional? decode (part.map (encode · |>.tree)) = some part := by
  cases part with
  | none => rfl
  | some value =>
    rw [Option.map_some, optional?, read value rfl, Option.map_some]
    exact nonnull value

/-- A part that is read has been there. -/
theorem Json.Tree.exists_of_optional? {α : Type} {decode : Tree → Option α} {field : Option Tree}
    {value : α} (read : optional? decode field = some (some value)) :
    ∃ tree, decode tree = some value := by
  unfold optional? at read
  split at read
  · cases read
  · cases read
  · obtain ⟨found, decoded, same⟩ := Option.map_eq_some_iff.mp read
    rw [Option.some.inj same] at decoded
    exact ⟨_, decoded⟩

@[simp] theorem Json.plain_objectOf_nil : (objectOf []).Plain :=
  plain_object_nil

@[simp] theorem Json.plain_objectOf_cons_iff {name : String} {value? : Option Json}
    {rest : List (String × Option Json)} :
    (objectOf ((name, value?) :: rest)).Plain ↔
      (∀ value, value? = some value → value.Plain) ∧ (objectOf rest).Plain := by
  cases value? <;> simp [objectOf]

namespace Diagnostic

/-- The text of a diagnostic: its value on one line. -/
def text (diagnostic : Diagnostic) : String :=
  diagnostic.toJson.compact

/-- The diagnostic that a text spells. -/
def ofText? (text : String) : Option Diagnostic :=
  (Json.Tree.ofText? text).bind ofTree?

/-- Whether the ends of the span take at most 64 bits, if there is a span. -/
def Fits (diagnostic : Diagnostic) : Prop :=
  ∀ span ∈ diagnostic.span, span.Fits

theorem plain_toJson (diagnostic : Diagnostic) : diagnostic.toJson.Plain := by
  simp [toJson, Severity.toJson, Span.plain_toJson, Context.plain_toJson]

theorem fields?_toJson (diagnostic : Diagnostic) :
    diagnostic.toJson.tree.fields? ["id", "severity", "message", "span", "context"] =
      some [some (.string (some diagnostic.id)), some diagnostic.severity.toJson.tree,
        some (.string (some diagnostic.message)), diagnostic.span.map (·.toJson.tree),
        diagnostic.context.map (·.toJson.tree)] := by
  obtain ⟨id, severity, message, span, context⟩ := diagnostic
  cases span <;> cases context <;> rfl

theorem ofTree?_toJson {diagnostic : Diagnostic} (fits : diagnostic.Fits) :
    ofTree? diagnostic.toJson.tree = some diagnostic := by
  have span : Json.Tree.optional? Span.ofTree? (diagnostic.span.map (·.toJson.tree)) =
      some diagnostic.span :=
    Json.Tree.optional?_map (fun span present => Span.ofTree?_toJson (fits span present)) nofun
  have context : Json.Tree.optional? Context.ofTree? (diagnostic.context.map (·.toJson.tree)) =
      some diagnostic.context :=
    Json.Tree.optional?_map (fun context _ => context.ofTree?_toJson) nofun
  simp [ofTree?, fields?_toJson, Json.Tree.text?, Severity.ofTree?_toJson, span, context]

/-- A diagnostic is read back from its text. -/
theorem ofText?_text {diagnostic : Diagnostic} (fits : diagnostic.Fits) :
    ofText? diagnostic.text = some diagnostic := by
  rw [ofText?, text, Json.Tree.ofText?_compact diagnostic.plain_toJson, Option.bind_some,
    ofTree?_toJson fits]

/-- The ends of a span that has been read take at most 64 bits. -/
theorem fits_of_ofTree? {tree : Json.Tree} {diagnostic : Diagnostic}
    (read : ofTree? tree = some diagnostic) : diagnostic.Fits := by
  simp only [ofTree?, Option.bind_eq_bind, Option.bind_eq_some_iff] at read
  obtain ⟨fields, -, read⟩ := read
  split at read
  · simp only [Option.bind_eq_some_iff, Option.pure_def, Option.some.injEq] at read
    obtain ⟨_, -, id, -, _, -, severity, -, _, -, message, -, span, spanRead, context, -, rfl⟩ := read
    intro found present
    obtain rfl : span = some found := present
    obtain ⟨tree, decoded⟩ := Json.Tree.exists_of_optional? spanRead
    exact Span.fits_of_ofTree? decoded
  · cases read

/-- A diagnostic is read back from its text, so no two diagnostics have the same text. What has been
read from any text of a diagnostic is read back as well: other spellings are settled after one reading. -/
theorem text_read_back :
    (∀ diagnostic : Diagnostic, diagnostic.Fits → ofText? diagnostic.text = some diagnostic) ∧
    (∀ diagnostic other : Diagnostic, diagnostic.Fits → other.Fits →
      diagnostic.text = other.text → diagnostic = other) ∧
    ∀ text diagnostic, ofText? text = some diagnostic →
      ofText? diagnostic.text = some diagnostic := by
  refine ⟨fun _ => ofText?_text, ?_, ?_⟩
  · intro diagnostic other fits otherFits same
    have read := ofText?_text fits
    rw [same, ofText?_text otherFits] at read
    exact (Option.some.inj read).symm
  · intro text diagnostic read
    obtain ⟨tree, -, decoded⟩ := Option.bind_eq_some_iff.mp read
    exact ofText?_text (fits_of_ofTree? decoded)

/-- An empty context differs from an absent one, and the largest end of a span is exact. An object with a
member of its own, a null, an escape and another order is settled after one reading. -/
theorem text_read_back_of_object :
    let diagnostic : Diagnostic :=
      ⟨"a\"\\", .info, "é\n\x01", some ⟨18446744073709551615, 3⟩, some .empty⟩
    let spelling := "\x7b\"note\":[1e999],\"span\":null,\"severity\":\"warn\"," ++
      "\"id\":\"\\u0061\",\"message\":\"b\"\x7d"
    let settled : Diagnostic := ⟨"a", .warn, "b", none, none⟩
    ofText? diagnostic.text = some diagnostic ∧
      diagnostic.text ≠ { diagnostic with context := none }.text ∧
      ofText? spelling = some settled ∧ ofText? settled.text = some settled := by
  intro diagnostic spelling settled
  have fits : diagnostic.Fits := by
    rintro span ⟨⟩
    exact ⟨by decide, by decide⟩
  have bareFits : { diagnostic with context := none }.Fits := fits
  have read : ofText? spelling = some settled := by decide +kernel
  obtain ⟨decoded, distinct, settles⟩ := text_read_back
  refine ⟨decoded diagnostic fits, ?_, read, settles spelling settled read⟩
  intro same
  have equal := distinct diagnostic _ fits bareFits same
  cases congrArg Diagnostic.context equal

end Diagnostic

end Forklift
