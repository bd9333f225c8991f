import Signpost.Text.Cutting

/-! What is cut out of a text that is put together from parts: a cut between the parts is safe and
gives the part. The offset of a mark is the size of what is in front of it. -/
namespace Signpost.Text

@[simp]
theorem byteSizeNil : byteSize [] = 0 := rfl

@[simp]
theorem byteSizeAppend (front back : List Char) :
    byteSize (front ++ back) = byteSize front + byteSize back := by
  rw [byteSize, String.ofList_append, String.utf8ByteSize_append]
  rfl

@[simp]
theorem byteSizeCons (c : Char) (text : List Char) :
    byteSize (c :: text) = c.utf8Size + byteSize text := by
  rw [byteSize, String.ofList_cons, String.utf8ByteSize_append, String.utf8ByteSize_singleton]
  rfl

/- The borders of characters are the places where a text falls apart. -/
theorem borderExactly {text : List Char} {i : Nat} :
    String.Pos.Raw.IsValid (String.ofList text) ⟨i⟩ ↔
      ∃ front back, text = front ++ back ∧ i = byteSize front := by
  rw [String.Pos.Raw.isValid_iff_exists_append]
  constructor
  · rintro ⟨front, back, joined, place⟩
    refine ⟨front.toList, back.toList, ?_, ?_⟩
    · rw [← String.toList_append, ← joined, String.toList_ofList]
    · rw [byteSize, String.ofList_toList]
      exact congrArg String.Pos.Raw.byteIdx place
  · rintro ⟨front, back, rfl, rfl⟩
    exact ⟨String.ofList front, String.ofList back, String.ofList_append, rfl⟩

theorem offsetJoined {mark : Char} {before after : List Char} (free : mark ∉ before) :
    offsetOf? mark (before ++ mark :: after) = some (byteSize before) := by
  have border := borderExactly.mpr ⟨before, mark :: after, rfl, rfl⟩
  have found : (String.ofList (before ++ mark :: after)).find? mark = some (String.pos _ _ border) := by
    refine String.find?_char_eq_some_iff_splits.mpr
      ⟨String.ofList before, String.ofList after, ⟨?_, rfl⟩, ?_⟩
    · rw [String.ofList_append, String.ofList_cons]
    · rwa [String.toList_ofList]
  rw [offsetOf?, found]
  rfl

theorem offsetMissing {mark : Char} {text : List Char} (free : mark ∉ text) :
    offsetOf? mark text = none := by
  rw [offsetOf?, Option.map_eq_none_iff, Option.eq_none_iff_forall_ne_some]
  intro place found
  obtain ⟨before, after, split, _⟩ := String.find?_char_eq_some_iff_splits.mp found
  have joined := congrArg String.toList split.eq_append
  rw [String.toList_ofList] at joined
  exact free (by simp [joined])

theorem placeFound {s : String} {i : String.Pos.Raw} (border : i.IsValid s) :
    s.pos? i = some (s.pos i border) := by
  have valid : i.isValidForSlice s.toSlice = true :=
    String.Pos.Raw.isValidForSlice_eq_true_iff.mpr border.toSlice
  rw [String.pos?, String.Slice.pos?, dif_pos valid]
  rfl

theorem placeMissing {s : String} {i : String.Pos.Raw} (divides : ¬ i.IsValid s) :
    s.pos? i = none := by
  have invalid : ¬ i.isValidForSlice s.toSlice = true := by
    rw [String.Pos.Raw.isValidForSlice_eq_true_iff]
    simpa using divides
  rw [String.pos?, String.Slice.pos?, dif_neg invalid]
  rfl

namespace Cut

/- A cut is refused exactly if it is not safe. -/
theorem takenSafe {cut : Cut} : cut.taken?.isSome = true ↔ cut.IsSafe := by
  by_cases starts : String.Pos.Raw.IsValid (String.ofList cut.text) ⟨cut.start⟩
  · by_cases stops : String.Pos.Raw.IsValid (String.ofList cut.text) ⟨cut.stop⟩
    · simp only [taken?, placeFound starts, placeFound stops, Option.isSome_ite]
      exact ⟨fun ordered => ⟨ordered, stops.le_utf8ByteSize, starts, stops⟩, IsSafe.ordered⟩
    · simp only [taken?, placeFound starts, placeMissing stops]
      exact iff_of_false Bool.false_ne_true fun safe => stops safe.stops
  · simp only [taken?, placeMissing starts]
    exact iff_of_false Bool.false_ne_true fun safe => starts safe.starts

theorem extractBetween {text front middle back : String} {start stop : text.Pos}
    (joined : text = front ++ middle ++ back)
    (starts : start.offset.byteIdx = front.utf8ByteSize)
    (stops : stop.offset.byteIdx = front.utf8ByteSize + middle.utf8ByteSize) :
    text.extract start stop = middle := by
  have bytes : text.toByteArray = front.toByteArray ++ (middle.toByteArray ++ back.toByteArray) := by
    rw [joined, String.toByteArray_append, String.toByteArray_append, ByteArray.append_assoc]
  rw [← String.toByteArray_inj, String.toByteArray_extract, starts, stops, bytes,
    ← String.size_toByteArray, ← Nat.add_zero front.toByteArray.size, Nat.add_assoc, Nat.zero_add,
    ByteArray.extract_append_size_add,
    ByteArray.extract_append_eq_left String.size_toByteArray.symm]

theorem takenBetween (front middle back : List Char) :
    (Cut.mk (front ++ middle ++ back) (byteSize front) (byteSize front + byteSize middle)).taken? =
      some middle := by
  have starts := borderExactly.mpr ⟨front, middle ++ back, List.append_assoc .., rfl⟩
  have stops := borderExactly.mpr ⟨front ++ middle, back, rfl, (byteSizeAppend front middle).symm⟩
  have joined : String.ofList (front ++ middle ++ back) =
      String.ofList front ++ String.ofList middle ++ String.ofList back := by
    rw [String.ofList_append, String.ofList_append]
  simp only [taken?, placeFound starts, placeFound stops]
  refine (if_pos (Nat.le_add_right (byteSize front) (byteSize middle))).trans (congrArg some ?_)
  rw [extractBetween joined rfl rfl, String.toList_ofList]

end Cut

namespace Cutting
variable {α β : Type}

theorem bindDone {run : Cutting α} {a : α} (done : run.result? = some a) (next : α → Cutting β) :
    run >>= next = ⟨run.cuts ++ (next a).cuts, (next a).result?⟩ := by
  simp only [bind, andThen, done]

/- The texts that are cut out, one by one, and the result. -/
structure Takes (run : Cutting α) (texts : List (List Char)) (a : α) : Prop where
  taken : run.cuts.map Cut.taken? = texts.map some
  result : run.result? = some a

theorem takesPure (a : α) : (pure a : Cutting α).Takes [] a := ⟨rfl, rfl⟩

section
variable {run : Cutting α} {next : α → Cutting β} {a : α} {b : β}

theorem takesBind {front back : List (List Char)} (first : run.Takes front a)
    (second : (next a).Takes back b) : (run >>= next).Takes (front ++ back) b := by
  rw [bindDone first.result]
  refine ⟨?_, second.result⟩
  rw [List.map_append, List.map_append, first.taken, second.taken]

theorem takesText {text : List Char} {texts : List (List Char)} (first : run.Takes [text] a)
    (second : (next a).Takes texts b) : (run >>= next).Takes (text :: texts) b :=
  takesBind first second

theorem takesNothing {texts : List (List Char)} (first : run.Takes [] a)
    (second : (next a).Takes texts b) : (run >>= next).Takes texts b :=
  takesBind first second

end

theorem takesSlice {text : List Char} {start stop : Nat} (front middle back : List Char)
    (joined : text = front ++ middle ++ back) (starts : start = byteSize front)
    (stops : stop = byteSize front + byteSize middle) :
    (slice text start stop).Takes [middle] middle := by
  subst joined starts stops
  have taken := Cut.takenBetween front middle back
  exact ⟨congrArg (fun text => [text]) taken, taken⟩

theorem takesMinus {n k : Nat} (inside : k ≤ n) : (minus n k).Takes [] (n - k) :=
  ⟨rfl, if_pos inside⟩

/- All cuts are safe, and with none refused the result is there. -/
structure Gives (run : Cutting α) (a : α) : Prop where
  safe : ∀ cut ∈ run.cuts, cut.IsSafe
  result : run.result? = some a

theorem takesGives {run : Cutting α} {texts : List (List Char)} {a : α}
    (takes : run.Takes texts a) : run.Gives a := by
  refine ⟨fun cut member => Cut.takenSafe.mp ?_, takes.result⟩
  have taken : cut.taken? ∈ texts.map some := takes.taken ▸ List.mem_map_of_mem member
  obtain ⟨text, _, same⟩ := List.mem_map.mp taken
  rw [← same]
  rfl

theorem givesPure (a : α) : (pure a : Cutting α).Gives a := takesGives (takesPure a)

theorem givesBind {run : Cutting α} {next : α → Cutting β} {a : α} {b : β} (first : run.Gives a)
    (second : (next a).Gives b) : (run >>= next).Gives b := by
  rw [bindDone first.result]
  refine ⟨fun cut member => ?_, second.result⟩
  rcases List.mem_append.mp member with before | after
  · exact first.safe cut before
  · exact second.safe cut after

end Cutting
end Signpost.Text
