import Signpost.Http.Body

/-! How a body is read. However it is made, a body holds its content and no empty chunk, so that
emptiness and equality are those of the contents. What polls have delivered and what is left make
up the content at every point, and the size says what is still to come. -/
namespace Signpost.Http.Body

/- The bytes that a body is made from. -/
def Source.content : Source → Bytes
  | .bytes content | .once content => content
  | .text content | .fixedText content => content.toList.flatMap String.utf8EncodeChar
  | .optional content => content.getD []
  | .unit | .empty | .default => []

theorem contentOfText (s : String) :
    (ofText s).content = s.toList.flatMap String.utf8EncodeChar := by
  rw [ofText, contentOfBytes, utf8Bytes]

theorem contentOfSource (source : Source) : (ofSource source).content = source.content := by
  cases source with
  | bytes content | once content => exact contentOfBytes content
  | text content | fixedText content => exact contentOfText content
  | optional content =>
    cases content with
    | none => rfl
    | some content => exact contentOfBytes content
  | unit | empty | default => rfl

theorem sameOfSource (source other : Source) :
    ofSource source = ofSource other ↔ source.content = other.content := by
  rw [← contentOfSource, ← contentOfSource]
  exact ⟨congrArg content, contentExt⟩

theorem isEmptyContent (b : Body) : b.isEmpty = true ↔ b.content = [] := by
  obtain ⟨chunk, nonempty⟩ := b
  cases chunk with
  | none => exact iff_of_true rfl rfl
  | some bytes => exact iff_of_false (by simp [isEmpty]) fun none => nonempty (congrArg some none)

theorem sizeContent (b : Body) : b.size = b.content.length := by
  obtain ⟨chunk, _⟩ := b
  cases chunk <;> rfl

/- What holds of a body while it is read: the frames delivered and what is left. -/
structure Reading (b : Body) (frames : List Bytes) (left : Body) : Prop where
  joined : frames.flatten ++ left.content = b.content
  filled : [] ∉ frames

theorem pollReading (b : Body) : Reading b b.nextFrame.1.toList b.nextFrame.2 := by
  obtain ⟨chunk, nonempty⟩ := b
  cases chunk with
  | none => exact ⟨rfl, List.not_mem_nil⟩
  | some bytes =>
    refine ⟨by simp [nextFrame, content, empty], fun member => nonempty ?_⟩
    exact congrArg some (List.mem_singleton.mp member).symm

theorem readingTrans {b rest left : Body} {front back : List Bytes}
    (first : Reading b front rest) (second : Reading rest back left) :
    Reading b (front ++ back) left := by
  refine ⟨?_, fun member => ?_⟩
  · rw [List.flatten_append, List.append_assoc, second.joined, first.joined]
  · rcases List.mem_append.mp member with inFront | inBack
    · exact first.filled inFront
    · exact second.filled inBack

theorem polledReading (b : Body) (n : Nat) : Reading b (b.polled n).1 (b.polled n).2 := by
  induction n generalizing b with
  | zero => exact ⟨rfl, List.not_mem_nil⟩
  | succ n ih => exact readingTrans (pollReading b) (ih b.nextFrame.2)

theorem polledEmpty (n : Nat) : empty.polled n = ([], empty) := by
  induction n with
  | zero => rfl
  | succ n ih =>
    have step : empty.polled (n + 1) = ([] ++ (empty.polled n).1, (empty.polled n).2) := rfl
    rw [step, ih]
    rfl

/- One poll takes everything there is. -/
theorem polledAll (b : Body) (n : Nat) : b.polled (n + 1) = (b.chunk?.toList, empty) := by
  simp only [polled, nextFrame, polledEmpty, List.append_nil]

theorem sizeDelivered (b : Body) (n : Nat) : b.size = (b.polled (n + 1)).1.flatten.length := by
  have joined := (polledReading b (n + 1)).joined
  rw [sizeContent, ← joined, polledAll]
  exact congrArg List.length (List.append_nil _)

theorem atEndSilent (b : Body) : b.atEnd = true ↔ b.nextFrame.1 = none := Option.isNone_iff_eq_none

/- A state is listed as long as every poll in front of it has delivered a frame. -/
theorem readsPolled (b : Body) (n : Nat) : b.reads[n]? =
    if (b.polled n).1.length = n then some ((b.polled n).2, (b.polled n).2.nextFrame.1)
    else none := by
  cases n with
  | zero =>
    obtain ⟨chunk, _⟩ := b
    cases chunk <;> rfl
  | succ n =>
    rw [polledAll]
    obtain ⟨chunk, _⟩ := b
    cases chunk with
    | none => rfl
    | some bytes => cases n <;> rfl

theorem readThroughout (source : Source) (n : Nat) :
    let b := ofSource source
    let frames := (b.polled n).1
    let left := (b.polled n).2
    (b.isEmpty = true ↔ source.content = []) ∧
      (∀ other, b = ofSource other ↔ source.content = other.content) ∧
      (∀ more, left.size = (left.polled (more + 1)).1.flatten.length) ∧
      (left.atEnd = true ↔ left.nextFrame.1 = none) ∧
      [] ∉ frames ∧ frames.flatten ++ left.content = source.content ∧
      b.reads[n]? = if frames.length = n then some (left, left.nextFrame.1) else none := by
  intro b frames left
  have reading : Reading b frames left := polledReading b n
  have content : b.content = source.content := contentOfSource source
  refine ⟨?_, sameOfSource source, sizeDelivered left, atEndSilent left, reading.filled, ?_,
    readsPolled b n⟩
  · rw [isEmptyContent, content]
  · rw [reading.joined, content]

end Signpost.Http.Body
