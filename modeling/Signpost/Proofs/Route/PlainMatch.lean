import Signpost.Proofs.Regex.Find
import Signpost.Proofs.Regex.Groups
import Signpost.Proofs.Route.PlainNodes

/-! What a plain template matches and captures. A match of its nodes cuts the path into a
piece for each segment, and saves the places of the pieces of the slugs. -/
namespace Signpost.Route
open Regex (Node Point Slots saved?)
open Regex.Node (MatchAll Takes)
open List (Forall₂)

section
variable {text : Array Char} {s t : Point}

theorem missingExactly {c : Char} {u : List Char} :
    (∀ d ∈ u, (CharSet.compl (.single c)).contains d = true) ↔ c ∉ u := by
  simp only [CharSet.contains, CharSet.containsSingle, Bool.not_eq_true', beq_eq_false_iff_ne]
  exact ⟨fun each member => each c member rfl, fun free d member same => free (same ▸ member)⟩

theorem oneExactly {u : List Char} : 1 ≤ u.length ↔ u ≠ [] := List.length_pos_iff

theorem takesSegmentNode : segmentNode.Match text s t ↔
    ∃ u, u ≠ [] ∧ '/' ∉ u ∧ Takes text u s t := by
  simp only [segmentNode, Node.takesRepeated, missingExactly, oneExactly]

theorem takesAnyNode : anyNode.Match text s t ↔ ∃ u, '\n' ∉ u ∧ Takes text u s t := by
  simp only [anyNode, Node.takesRepeated, missingExactly, Nat.zero_le, true_and]

theorem takesSlugNode : slugNode.Match text s t ↔
    ∃ u, u ≠ [] ∧ (∀ c ∈ u, c ∉ ['/', '?', '#']) ∧ Takes text u s t := by
  have other : ∀ c, (CharSet.compl (.union (.union (.single '/') (.single '?'))
      (.single '#'))).contains c = true ↔ c ∉ ['/', '?', '#'] := by
    intro c
    simp [CharSet.contains, CharSet.containsSingle, and_assoc]
  simp only [slugNode, Node.takesRepeated, other, oneExactly]

theorem matchGroup {index : Nat} {a : Node} : (Node.group (some index) a).Match text s t ↔
    ∃ u, a.Match text (s.save (2 * index)) u ∧ t = u.save (2 * index + 1) := Iff.rfl

/- One of the two parts of a tail. -/
def TailPart (sign : Char) (part : List Char) : Prop :=
  part = [] ∨ ∃ rest, part = sign :: rest ∧ '\n' ∉ rest

def tailMarks (index pos : Nat) (part : List Char) : Slots :=
  if part = [] then [] else [(2 * index + 1, pos + part.length), (2 * index, pos)]

theorem matchTailNode {index : Nat} {sign : Char} : (tailNode index sign).Match text s t ↔
    ∃ part, TailPart sign part ∧ part <+: text.toList.drop s.pos ∧
      t = ⟨s.pos + part.length, tailMarks index s.pos part ++ s.slots⟩ := by
  have body : ∀ {s u : Point}, (Node.seq (.set (.single sign)) anyNode).Match text s u ↔
      ∃ rest, '\n' ∉ rest ∧ Takes text (sign :: rest) s u := by
    intro s u
    simp only [Node.matchSeq, Node.takesSet, takesAnyNode, CharSet.containsSingle, beq_iff_eq,
      exists_eq_left]
    constructor
    · intro given
      obtain ⟨v, first, rest, free, more⟩ := given
      exact ⟨rest, free, Node.takesCons.mpr ⟨v, first, more⟩⟩
    · intro given
      obtain ⟨rest, free, taken⟩ := given
      obtain ⟨v, first, more⟩ := Node.takesCons.mp taken
      exact ⟨v, first, rest, free, more⟩
  simp only [tailNode, Node.matchOptional, matchGroup, body]
  constructor
  · intro given
    rcases given with rfl | ⟨u, ⟨rest, free, taken, rfl⟩, rfl⟩
    · exact ⟨[], .inl rfl, List.nil_prefix, rfl⟩
    · exact ⟨sign :: rest, .inr ⟨rest, rfl, free⟩, taken, rfl⟩
  · intro given
    obtain ⟨part, rfl | ⟨rest, rfl, free⟩, taken, rfl⟩ := given
    · exact .inl rfl
    · exact .inr ⟨_, ⟨rest, free, taken, rfl⟩, rfl⟩

theorem tailMarksAbove {index pos : Nat} {part : List Char} :
    ∀ m ∈ tailMarks index pos part, 2 * index ≤ m.1 := by
  intro m member
  unfold tailMarks at member
  split at member
  · cases member
  · simp only [List.mem_cons, List.not_mem_nil, or_false] at member
    rcases member with rfl | rfl
    · exact Nat.le_succ _
    · exact Nat.le_refl _

theorem prefixWhole {l w : List Char} {n : Nat} (inside : n ≤ l.length) :
    (w <+: l.drop n ∧ n + w.length = l.length) ↔ l.drop n = w := by
  constructor
  · intro given
    obtain ⟨begins, length⟩ := given
    exact (begins.eq_of_length (by rw [List.length_drop]; omega)).symm
  · intro same
    subst same
    exact ⟨List.prefix_refl _, by rw [List.length_drop]; omega⟩

theorem matchTail (index : Nat) (inside : s.pos ≤ text.size) :
    MatchAll text (tailNodes index) s t ↔ ∃ query fragment, TailPart '?' query ∧
      TailPart '#' fragment ∧ text.toList.drop s.pos = query ++ fragment ∧
      t = ⟨text.size, tailMarks (index + 1) (s.pos + query.length) fragment ++
        (tailMarks index s.pos query ++ s.slots)⟩ := by
  have size : text.toList.length = text.size := Array.length_toList
  simp only [tailNodes, MatchAll, matchTailNode]
  constructor
  · intro given
    obtain ⟨_, ⟨query, asks, first, rfl⟩, _, ⟨fragment, names, second, rfl⟩, _, ⟨stops, rfl⟩, rfl⟩ := given
    have both := Node.prefixAppend.mpr ⟨first, second⟩
    have bound := List.IsPrefix.length_le both
    rw [List.length_append, List.length_drop, size] at bound
    have place := Node.textEndHolds (by simp only; omega) stops
    simp only at place
    have whole := (prefixWhole (by omega)).mp ⟨both, by rw [List.length_append]; omega⟩
    exact ⟨query, fragment, asks, names, whole, by rw [place]⟩
  · intro given
    obtain ⟨query, fragment, asks, names, whole, rfl⟩ := given
    obtain ⟨both, place⟩ := (prefixWhole (by omega)).mpr whole
    obtain ⟨first, second⟩ := Node.prefixAppend.mp both
    rw [List.length_append, size] at place
    refine ⟨_, ⟨query, asks, first, rfl⟩, _, ⟨fragment, names, second, rfl⟩, _, ?_, rfl⟩
    have here : s.pos + query.length + fragment.length = text.size := by omega
    rw [here]
    exact ⟨by simp [Regex.Look.holds, Regex.after?], rfl⟩

end

namespace PlainSegment

/- What the match of a segment saves that takes the piece from the position on. -/
def marks (index pos : Nat) (piece : List Char) (s : PlainSegment) : Slots :=
  if s.isSlug then [(2 * index + 1, pos + piece.length), (2 * index, pos)] else []

def pathMarks (index pos : Nat) : List PlainSegment → List (List Char) → Slots
  | s :: segments, w :: pieces =>
    pathMarks (index + s.slugs) (pos + 1 + w.length) segments pieces ++ s.marks index (pos + 1) w
  | _, _ => []

theorem matchWildcard {text : Array Char} {deep : Bool} {before after : List Char} {index : Nat}
    {s t : Point} : MatchAll text ((wildcard deep before after).nodes index) s t ↔
      ∃ w, (wildcard deep before after).Piece w ∧ Takes text w s t := by
  cases deep with
  | false =>
    simp only [nodes, Node.matchAllAppend, MatchAll, Node.takesLiteral, takesSegmentNode, Piece]
    constructor
    · intro given
      obtain ⟨p, front, q, ⟨u, some, free, body⟩, back⟩ := given
      refine ⟨_, ⟨u, some, free, rfl⟩, ?_⟩
      exact Node.takesAppend.mpr ⟨q, Node.takesAppend.mpr ⟨p, front, body⟩, back⟩
    · intro given
      obtain ⟨_, ⟨u, some, free, rfl⟩, taken⟩ := given
      obtain ⟨q, taken, back⟩ := Node.takesAppend.mp taken
      obtain ⟨p, front, body⟩ := Node.takesAppend.mp taken
      exact ⟨p, front, q, ⟨u, some, free, body⟩, back⟩
  | true =>
    simp only [nodes, Node.matchAllAppend, MatchAll, Node.takesLiteral, takesSegmentNode,
      takesAnyNode, Piece]
    constructor
    · intro given
      obtain ⟨p, front, o, ⟨a, any, first⟩, q, ⟨b, some, free, body⟩, back⟩ := given
      refine ⟨_, ⟨a, b, any, some, free, rfl⟩, ?_⟩
      refine Node.takesAppend.mpr ⟨q, Node.takesAppend.mpr ⟨o, ?_, body⟩, back⟩
      exact Node.takesAppend.mpr ⟨p, front, first⟩
    · intro given
      obtain ⟨_, ⟨a, b, any, some, free, rfl⟩, taken⟩ := given
      obtain ⟨q, taken, back⟩ := Node.takesAppend.mp taken
      obtain ⟨o, taken, body⟩ := Node.takesAppend.mp taken
      obtain ⟨p, front, first⟩ := Node.takesAppend.mp taken
      exact ⟨p, front, o, ⟨a, any, first⟩, q, ⟨b, some, free, body⟩, back⟩

theorem matchSegment {text : Array Char} {segment : PlainSegment} {index : Nat} {s t : Point} :
    MatchAll text (segment.nodes index) s t ↔
      ∃ w, segment.Piece w ∧ w <+: text.toList.drop s.pos ∧
        t = ⟨s.pos + w.length, segment.marks index s.pos w ++ s.slots⟩ := by
  cases segment with
  | literal text =>
    simp only [nodes, Node.takesLiteral, Takes, Piece, exists_eq_left, marks, isSlug,
      Bool.false_eq_true, if_false, List.nil_append]
  | slug spelling name =>
    simp only [nodes, Node.matchAllSingle, matchGroup, takesSlugNode, Takes, Piece, marks, isSlug,
      if_true]
    constructor
    · intro given
      obtain ⟨u, ⟨w, some, each, taken, rfl⟩, rfl⟩ := given
      exact ⟨w, ⟨some, each⟩, taken, rfl⟩
    · intro given
      obtain ⟨w, ⟨some, each⟩, taken, rfl⟩ := given
      exact ⟨_, ⟨w, some, each, taken, rfl⟩, rfl⟩
  | wildcard deep before after => exact matchWildcard

theorem isTailExact {tail : List Char} : IsTail tail ↔
    ∃ query fragment, TailPart '?' query ∧ TailPart '#' fragment ∧ tail = query ++ fragment := by
  constructor
  · intro given
    rcases given with rfl | ⟨head, free⟩
    · exact ⟨[], [], .inl rfl, .inl rfl, rfl⟩
    · cases tail with
      | nil => simp at head
      | cons c rest =>
        rw [List.mem_cons, not_or] at free
        rcases head with same | same
        · cases same
          exact ⟨'?' :: rest, [], .inr ⟨rest, rfl, free.2⟩, .inl rfl, (List.append_nil _).symm⟩
        · cases same
          exact ⟨[], '#' :: rest, .inl rfl, .inr ⟨rest, rfl, free.2⟩, rfl⟩
  · intro given
    obtain ⟨query, fragment, rfl | ⟨q, rfl, free⟩, rfl | ⟨f, rfl, free'⟩, rfl⟩ := given
    · exact .inl rfl
    · exact .inr ⟨.inr rfl, by simpa using free'⟩
    · exact .inr ⟨.inl rfl, by simpa using free⟩
    · exact .inr ⟨.inl rfl, by simp [free, free']⟩

/- The pieces as they stand in a path, each behind a slash. -/
def joined (pieces : List (List Char)) : List Char := pieces.flatMap ('/' :: ·)

theorem joinedCons (w : List Char) (pieces : List (List Char)) :
    joined (w :: pieces) = ['/'] ++ (w ++ joined pieces) := rfl

theorem joinedPath {pieces : List (List Char)} (filled : pieces ≠ []) (tail : List Char) :
    joined pieces ++ tail = '/' :: (['/'].intercalate pieces ++ tail) := by
  rw [joined, ← Text.consIntercalate filled, List.cons_append]

theorem joinedPrefix {w text : List Char} {pieces : List (List Char)} {n : Nat} :
    joined (w :: pieces) <+: text.drop n ↔ ['/'] <+: text.drop n ∧ w <+: text.drop (n + 1) ∧
      joined pieces <+: text.drop (n + 1 + w.length) := by
  rw [joinedCons, Node.prefixAppend, Node.prefixAppend]
  rfl

theorem groupValue {path piece : List Char} {slots : Slots} {count number lo : Nat}
    (inside : number < count) (first : saved? slots (2 * (number + 1)) = some lo)
    (second : saved? slots (2 * (number + 1) + 1) = some (lo + piece.length))
    (stands : piece <+: path.drop lo) :
    Regex.groupText path (Regex.saves slots (2 * count + 2)) (number + 1) = piece := by
  rw [Regex.groupText, Regex.savesGetD _ _ _ (by omega), Regex.savesGetD _ _ _ (by omega), first,
    second]
  simp only [Nat.add_sub_cancel_left]
  exact (List.prefix_iff_eq_take.mp stands).symm

end PlainSegment
end Signpost.Route
