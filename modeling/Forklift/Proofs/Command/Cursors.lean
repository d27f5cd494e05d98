import Forklift.Command.Reader
import Forklift.Proofs.Command.Places

/-! # Streams as cursors

A stream keeps nothing but its place in the text, and looks for the next step from there. All the same
it is a cursor over the list of all steps: after any calls each stream stands behind the first steps of
the list, as many as it has handed out, and nothing that is asked of another stream moves it. Every step
takes a stream at least two bytes further, so it comes to an end.
-/

namespace Forklift

namespace TokenStream

variable {stream after : TokenStream} {token : Token}

/-- The stream behind its first steps: behind as many as are told, or behind all of them. -/
def skip (stream : TokenStream) (count : Nat) : TokenStream :=
  (stream.take count).2

/-! ## Skipping steps -/

theorem skip_of_none (ended : stream.next? = none) (count : Nat) : stream.skip count = stream := by
  cases count with
  | zero => rfl
  | succ count => simp only [skip, take, ended]

theorem skip_of_some (found : stream.next? = some (token, after)) (count : Nat) :
    stream.skip (count + 1) = after.skip count := by
  simp only [skip, take, found]

theorem drain_of_none (ended : stream.next? = none) : stream.drain = ([], stream) := by
  rw [drain]
  split
  · rfl
  · rename_i found
    rw [ended] at found
    contradiction

theorem drain_of_some (found : stream.next? = some (token, after)) :
    stream.drain = (token :: after.drain.1, after.drain.2) := by
  rw [drain]
  split
  · rename_i ended
    rw [found] at ended
    contradiction
  · rename_i found_again
    rw [found] at found_again
    obtain ⟨rfl, rfl⟩ := Prod.mk.inj (Option.some.inj found_again)
    rfl

theorem toList_of_none (ended : stream.next? = none) : stream.toList = [] := by
  rw [toList, drain_of_none ended]

theorem toList_of_some (found : stream.next? = some (token, after)) :
    stream.toList = token :: after.toList := by
  rw [toList, drain_of_some found, toList]

/-- Behind its first steps a stream hands out the one that comes next in the list of its steps. -/
theorem next?_skip (stream : TokenStream) (count : Nat) :
    (stream.skip count).next? =
      stream.toList[count]?.map fun token => (token, stream.skip (count + 1)) := by
  induction count generalizing stream with
  | zero =>
    change stream.next? = _
    cases found : stream.next? with
    | none => simp [toList_of_none found]
    | some step =>
      obtain ⟨token, after⟩ := step
      rw [toList_of_some found, skip_of_some found]
      rfl
  | succ count ih =>
    cases found : stream.next? with
    | none => simp [skip_of_none found, toList_of_none found, found]
    | some step =>
      obtain ⟨token, after⟩ := step
      simp only [skip_of_some found, toList_of_some found, List.getElem?_cons_succ, ih]

/-- Behind its first steps a stream has all others left, and it ends where it always ends. -/
theorem drain_skip (stream : TokenStream) (count : Nat) :
    (stream.skip count).drain = (stream.toList.drop count, stream.skip stream.toList.length) := by
  induction count generalizing stream with
  | zero =>
    change stream.drain = _
    fun_induction drain stream with
    | case1 stream ended => simp [toList_of_none ended, skip_of_none ended]
    | case2 stream token after found more last drained ih =>
      rw [drained, Prod.mk.injEq] at ih
      rw [toList_of_some found, List.length_cons, skip_of_some found, ih.1, ih.2, List.drop_zero,
        List.drop_zero]
  | succ count ih =>
    cases found : stream.next? with
    | none => simp [skip_of_none found, toList_of_none found, drain_of_none found]
    | some step =>
      obtain ⟨token, after⟩ := step
      rw [skip_of_some found, ih, toList_of_some found, List.drop_succ_cons, List.length_cons,
        skip_of_some found]

theorem source_skip (stream : TokenStream) (count : Nat) :
    (stream.skip count).source = stream.source := by
  induction count generalizing stream with
  | zero => rfl
  | succ count ih =>
    cases found : stream.next? with
    | none => rw [skip_of_none found]
    | some step =>
      obtain ⟨token, after⟩ := step
      rw [skip_of_some found, ih, (split_of_next? found).1]

/-- A stream that has handed out some steps stands for their number. -/
theorem standsFor (text : String) :
    Reader.StandsFor reader (Reader.ofList (tokens text)) (ofText text).skip where
  next count := by
    simp only [reader, next?_skip, toList_ofText, Reader.ofList]
    cases left : (tokens text)[count]? with
    | none =>
      have spent : ¬ count < (tokens text).length := Nat.not_lt.2 (List.getElem?_eq_none_iff.1 left)
      rw [if_neg spent]
      rfl
    | some token =>
      have inside : count < (tokens text).length := (List.getElem?_eq_some_iff.1 left).1
      rw [if_pos inside]
      rfl
  rest count := by
    simp only [reader, drain_skip, toList_ofText, Reader.ofList]
  restart count := by
    simp only [reader, restart, source_skip]
    rfl

/-! ## Places in the text -/

/-- A stream stands at the end of the last step that it has handed out. -/
theorem offset_skip (stream : TokenStream) (count : Nat) :
    (stream.skip count).offset =
      ((stream.toList.take count).getLast?.map (·.span.stop)).getD stream.offset := by
  induction count generalizing stream with
  | zero => rfl
  | succ count ih =>
    cases found : stream.next? with
    | none => simp [skip_of_none found, toList_of_none found]
    | some step =>
      obtain ⟨token, after⟩ := step
      have stop : token.span.stop = after.offset := (split_of_next? found).2.1
      rw [skip_of_some found, ih, toList_of_some found, List.take_succ_cons, List.getLast?_cons]
      cases (after.toList.take count).getLast? with
      | none => exact stop.symm
      | some last => rfl

/-- The next step takes a stream further. -/
theorem offset_lt_of_next? (found : stream.next? = some (token, after)) :
    stream.offset < after.offset := by
  obtain ⟨-, -, passed, -, place, large⟩ := split_of_next? found
  omega

/-- Each step that is left takes two bytes or more of what is left of the text. -/
theorem two_mul_length_toList_le (stream : TokenStream) :
    2 * stream.toList.length ≤ Text.byteLength stream.rest := by
  unfold toList
  fun_induction drain stream with
  | case1 stream ended => exact Nat.zero_le _
  | case2 stream token after found more last drained ih =>
    rw [drained] at ih
    dsimp only at ih
    obtain ⟨-, -, passed, split, -, large⟩ := split_of_next? found
    rw [split, Text.byteLength_append, List.length_cons]
    omega

/-- Whether what a stream has left of its text stands at its offset. -/
def IsPlaced (stream : TokenStream) : Prop :=
  ∃ front, stream.source.toList = front ++ stream.rest ∧ stream.offset = Text.byteLength front

theorem IsPlaced.next? (placed : stream.IsPlaced) (found : stream.next? = some (token, after)) :
    after.IsPlaced := by
  obtain ⟨front, whole, place⟩ := placed
  obtain ⟨source, -, passed, split, further, -⟩ := split_of_next? found
  refine ⟨front ++ passed, ?_, ?_⟩
  · rw [source, whole, split, List.append_assoc]
  · rw [further, place, Text.byteLength_append]

theorem IsPlaced.skip (placed : stream.IsPlaced) (count : Nat) : (stream.skip count).IsPlaced := by
  induction count generalizing stream with
  | zero => exact placed
  | succ count ih =>
    cases found : stream.next? with
    | none => rwa [skip_of_none found]
    | some step =>
      obtain ⟨token, after⟩ := step
      rw [skip_of_some found]
      exact ih (placed.next? found)

theorem isPlaced_ofText (text : String) : (ofText text).IsPlaced :=
  ⟨[], rfl, rfl⟩

/-- The place of a stream among the bytes of its text, without what is left of the text. -/
def inBytes (stream : TokenStream) : ByteStream :=
  ⟨stream.source, stream.offset⟩

/-- The steps that a stream has left are those that begin at its offset or behind it. -/
theorem IsPlaced.toList_eq (placed : stream.IsPlaced) :
    stream.toList = tokensBehind (Text.bytes stream.source) stream.offset := by
  obtain ⟨front, whole, place⟩ := placed
  have bytes : Text.bytes stream.source = Text.encode front ++ Text.encode stream.rest := by
    rw [Text.bytes_eq, whole, Text.encode, List.flatMap_append]
    rfl
  rw [toList_eq_tokensFrom, tokensFrom_eq, bytes, place, ← Text.length_encode, tokensBehind_append]

/-- The place alone decides: looking for the next step over bytes from there finds the same one, and
goes on from the same place. -/
theorem IsPlaced.next_inBytes (placed : stream.IsPlaced) :
    stream.inBytes.next =
      match stream.next? with
      | none => (.ended, stream.inBytes)
      | some (token, after) => (.step token, after.inBytes) := by
  have left := placed.toList_eq
  cases found : stream.next? with
  | none =>
    rw [toList_of_none found] at left
    exact ByteStream.next_of_nil left.symm
  | some step =>
    obtain ⟨token, after⟩ := step
    obtain ⟨source, stop, -⟩ := split_of_next? found
    rw [toList_of_some found] at left
    have goes_on : stream.inBytes.next = (.step token, ⟨stream.source, token.span.stop⟩) :=
      (ByteStream.next_of_cons left.symm).1
    rw [goes_on, stop, ← source]
    rfl

end TokenStream

/-- Streams that are made of one stream of a text by copying, directly or not, are cursors over the
list of its steps. Whatever they are asked, they reply as indices into the list would, and each stands
behind the first steps of the list, as many as its index tells: at the end of the last one of them. A
copy starts where its original stands; what is asked of others does not move a stream. The place alone
decides what is handed out next, as if it were looked for over bytes. Each step takes a stream further,
so a stream ends after half as many steps as the text has bytes, or fewer. -/
theorem streams_are_cursors (text : String) (calls : List Reader.Call) :
    let streams := TokenStream.reader.askAll [.ofText text] calls
    let indices := (Reader.ofList (tokens text)).askAll [0] calls
    streams.1 = indices.1 ∧
    streams.2 = indices.2.map (TokenStream.ofText text).skip ∧
    (∀ index, ((TokenStream.ofText text).skip index).offset =
      (((tokens text).take index).getLast?.map (·.span.stop)).getD 0) ∧
    (∀ place stream, streams.2[place]? = some stream →
      TokenStream.reader.askAll streams.2 [⟨place, .copy⟩] =
        ([.copied streams.2.length], streams.2 ++ [stream]) ∧
      ∀ others : List Reader.Call,
        (∀ call ∈ others, call.place = place → call.request = .copy) →
        (TokenStream.reader.askAll streams.2 others).2[place]? = some stream) ∧
    (∀ stream ∈ streams.2,
      (stream.inBytes.next =
        match stream.next? with
        | none => (.ended, stream.inBytes)
        | some (token, after) => (.step token, after.inBytes)) ∧
      (∀ token after, stream.next? = some (token, after) → stream.offset < after.offset) ∧
      2 * stream.toList.length ≤ text.utf8ByteSize ∧
      ∀ count, text.utf8ByteSize ≤ 2 * count → (stream.skip count).next? = none) := by
  intro streams indices
  have together : streams = (indices.1, indices.2.map (TokenStream.ofText text).skip) :=
    (TokenStream.standsFor text).askAll [0] calls
  refine ⟨congrArg Prod.fst together, congrArg Prod.snd together, ?_, ?_, ?_⟩
  · intro index
    rw [TokenStream.offset_skip, TokenStream.toList_ofText]
    rfl
  · intro place stream present
    refine ⟨TokenStream.reader.askAll_copy present, ?_⟩
    intro others elsewhere
    rw [← present]
    exact TokenStream.reader.getElem?_askAll (List.getElem?_eq_some_iff.1 present).1 elsewhere
  · intro stream member
    rw [together] at member
    obtain ⟨index, -, rfl⟩ := List.mem_map.1 member
    have bound : 2 * ((TokenStream.ofText text).skip index).toList.length ≤ text.utf8ByteSize := by
      have whole := TokenStream.two_mul_length_toList_le (TokenStream.ofText text)
      rw [← Text.byteLength_toList]
      rw [TokenStream.toList, TokenStream.drain_skip, List.length_drop]
      exact Nat.le_trans (Nat.mul_le_mul_left 2 (Nat.sub_le _ _)) whole
    refine ⟨((TokenStream.isPlaced_ofText text).skip index).next_inBytes,
      fun token after => TokenStream.offset_lt_of_next?, bound, ?_⟩
    intro count enough
    have spent : ((TokenStream.ofText text).skip index).toList.length ≤ count := by omega
    rw [TokenStream.next?_skip, List.getElem?_eq_none spent]
    rfl

end Forklift
