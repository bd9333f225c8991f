import Signpost.Proofs.Regex.Extension
import Signpost.Proofs.Route.PlainPath

/-! Which cut a plain template takes where there are several. The ends of its segments have an
order of preference, and the first of them that only a query or a fragment is left behind
gives the values of the slugs. -/
namespace Signpost.Route
open Regex (Node Point Slots)
open List (Forall₂)

namespace PlainSegment

instance (tail : List Char) : Decidable (IsTail tail) :=
  inferInstanceAs (Decidable (tail = [] ∨ (tail.head? = some '?' ∨ tail.head? = some '#') ∧
    '\n' ∉ tail))

theorem literalSimple (text : List Char) :
    ∀ a ∈ Node.literal text, a.isSolid = true ∧ a.isBlind = true := by
  intro a member
  obtain ⟨c, _, rfl⟩ := List.mem_map.mp member
  exact ⟨rfl, rfl⟩

theorem segmentSimple (s : PlainSegment) (index : Nat) :
    ∀ a ∈ s.nodes index, a.isSolid = true ∧ a.isBlind = true := by
  cases s with
  | literal text => exact literalSimple text
  | slug spelling name =>
    intro a member
    cases List.mem_singleton.mp member
    exact ⟨rfl, rfl⟩
  | wildcard deep before after =>
    have rest : ∀ a ∈ segmentNode :: Node.literal after, a.isSolid = true ∧ a.isBlind = true :=
      List.forall_mem_cons.mpr ⟨⟨rfl, rfl⟩, literalSimple after⟩
    cases deep with
    | false => exact List.forall_mem_append.mpr ⟨literalSimple before, rest⟩
    | true =>
      exact List.forall_mem_append.mpr ⟨literalSimple before,
        List.forall_mem_cons.mpr ⟨⟨rfl, rfl⟩, rest⟩⟩

section
variable (segments : List PlainSegment)

theorem pathSimple (index : Nat) :
    ∀ a ∈ pathNodes index segments, a.isSolid = true ∧ a.isBlind = true := by
  induction segments generalizing index with
  | nil => exact fun a member => nomatch member
  | cons s rest ih =>
    refine List.forall_mem_cons.mpr ⟨⟨rfl, rfl⟩, ?_⟩
    exact List.forall_mem_append.mpr ⟨segmentSimple s index, ih _⟩

theorem tailSolid (index : Nat) : ∀ a ∈ tailNodes index, a.isSolid = true := by
  simp [tailNodes, tailNode, anyNode, Node.isSolid, Node.takesSome]

theorem sourceSolid : (Node.chain (sourceNodes segments)).isSolid = true := by
  refine Node.chainSolid (List.forall_mem_cons.mpr ⟨rfl, List.forall_mem_append.mpr ⟨?_, ?_⟩⟩)
  · exact fun a member => (pathSimple segments 1 a member).1
  · exact tailSolid _

/- Where the segments may end in a text, and what is saved on the way, in order of
preference. -/
def ends (text : List Char) : List Point :=
  Node.outcomesAll text.toArray (pathNodes 1 segments) ⟨0, []⟩

theorem endsExact {text : List Char} {u : Point} : u ∈ ends segments text ↔
    ∃ pieces, Forall₂ Piece segments pieces ∧ joined pieces <+: text ∧
      u = ⟨(joined pieces).length, pathMarks 1 0 segments pieces⟩ := by
  have solid := Node.chainSolid fun a member => (pathSimple segments 1 a member).1
  rw [ends, ← Node.chainOutcomes, Regex.outcomesExact solid (Nat.zero_le _), Node.chainMatch,
    ← pathNodesPlain, Part.matchPath]
  simp only [fitPlain, pathMarksPlain, List.drop_zero, Nat.zero_add, List.append_nil]

/- What goes past the end of a path is left out in front of it. -/
theorem endsShorter (path tail : List Char) :
    ends segments path = (ends segments (path ++ tail)).filter (·.pos ≤ path.length) := by
  have clips := Regex.allClipped path.toArray tail.toArray
    (fun a member => (pathSimple segments 1 a member).2)
    (fun a member => (pathSimple segments 1 a member).1)
  rw [List.append_toArray] at clips
  exact (clips.clip ⟨0, []⟩ (Nat.zero_le _)).symm

/- The values of the slugs, from what is saved. -/
def slugTexts (path : List Char) (slots : Slots) : List String :=
  (List.range (slugTotal segments)).map fun i => String.ofList (Regex.groupText path
    (Regex.saves slots (2 * slugTotal segments + 2)) (i + 1))

/- What is saved behind the segments does not change the values. -/
theorem slugTextsFirst {path : List Char} {pieces : List (List Char)} {later : Slots}
    (fit : Forall₂ Piece segments pieces) (stands : joined pieces <+: path)
    (above : ∀ m ∈ later, 2 * (slugTotal segments + 1) ≤ m.1) :
    slugTexts segments path (later ++ pathMarks 1 0 segments pieces) =
      (values segments pieces).map String.ofList :=
  capturedValues fit stands above

theorem slugTextsPieces {path : List Char} {pieces : List (List Char)}
    (fit : Forall₂ Piece segments pieces) (stands : joined pieces <+: path) :
    slugTexts segments path (pathMarks 1 0 segments pieces) =
      (values segments pieces).map String.ofList := by
  have first : slugTexts segments path ([] ++ pathMarks 1 0 segments pieces) = _ :=
    slugTextsFirst segments fit stands nofun
  exact first

theorem tailExact {text : List Char} {u t : Point} (index : Nat) (inside : u.pos ≤ text.length) :
    t ∈ Node.outcomesAll text.toArray (tailNodes index) u ↔ ∃ query fragment, TailPart '?' query ∧
      TailPart '#' fragment ∧ text.drop u.pos = query ++ fragment ∧
      t = ⟨text.length, tailMarks (index + 1) (u.pos + query.length) fragment ++
        (tailMarks index u.pos query ++ u.slots)⟩ := by
  have solid := Node.chainSolid (tailSolid index)
  rw [← Node.chainOutcomes, Regex.outcomesExact solid (by simpa using inside), Node.chainMatch,
    matchTail index (by simpa using inside)]
  simp

/- Behind an end of the segments the tail is matched exactly if nothing else is left there. -/
theorem tailChosen {text : List Char} {u : Point} (member : u ∈ ends segments text) :
    (Node.outcomesAll text.toArray (tailNodes (slugTotal segments + 1)) u).head?.map
      (fun t => slugTexts segments text t.slots) =
        if IsTail (text.drop u.pos) then some (slugTexts segments text u.slots) else none := by
  obtain ⟨pieces, fit, stands, same⟩ := (endsExact segments).mp member
  have inside : u.pos ≤ text.length := by
    rw [same]
    exact stands.length_le
  cases first : (Node.outcomesAll text.toArray (tailNodes (slugTotal segments + 1)) u).head? with
  | none =>
    have other : ¬ IsTail (text.drop u.pos) := by
      intro tail
      obtain ⟨query, fragment, asks, names, whole⟩ := isTailExact.mp tail
      have reached := (tailExact (slugTotal segments + 1) inside).mpr ⟨query, fragment, asks, names, whole, rfl⟩
      rw [List.head?_eq_none_iff.mp first] at reached
      cases reached
    rw [if_neg other, Option.map_none]
  | some t =>
    obtain ⟨query, fragment, asks, names, whole, rfl⟩ :=
      (tailExact _ inside).mp (List.mem_of_mem_head? first)
    rw [if_pos (isTailExact.mpr ⟨query, fragment, asks, names, whole⟩), Option.map_some, same]
    rw [slugTextsPieces segments fit stands, ← List.append_assoc,
      slugTextsFirst segments fit stands fun m member => ?_]
    rcases List.mem_append.mp member with member | member
    · have := tailMarksAbove m member
      omega
    · exact tailMarksAbove m member

theorem findSource {regex : Regex} (node : regex.node = Node.chain (sourceNodes segments))
    (text : List Char) : regex.find? text = ((ends segments text).findSome? fun u =>
      (Node.outcomesAll text.toArray (tailNodes (slugTotal segments + 1)) u).head?).map
        (·.thread regex.node.size 0) := by
  have solid : regex.node.isSolid = true := node ▸ sourceSolid segments
  have outcomes : ∀ start, regex.node.outcomes text.toArray ⟨start, []⟩ =
      ((Node.look .textStart).outcomes text.toArray ⟨start, []⟩).flatMap fun s =>
        (Node.outcomesAll text.toArray (pathNodes 1 segments) s).flatMap
          (Node.outcomesAll text.toArray (tailNodes (slugTotal segments + 1))) := by
    intro start
    rw [node, Node.chainOutcomes, sourceNodes, Node.outcomesAll]
    exact List.flatMap_congr fun s _ => Node.outcomesAllAppend _ _ _ s
  have late : ∀ start < text.length, regex.node.outcomes text.toArray ⟨start + 1, []⟩ = [] := by
    intro start inside
    have none : (Node.look .textStart).outcomes text.toArray ⟨start + 1, []⟩ = [] := by
      refine List.eq_nil_iff_forall_not_mem.mpr fun t member => ?_
      have begins := Node.textStartHolds (by simpa using Nat.succ_le_of_lt inside) (Regex.outcomesMatch member).1
      cases begins
    rw [outcomes, none, List.flatMap_nil]
  have first : (Node.look .textStart).outcomes text.toArray ⟨0, []⟩ = [⟨0, []⟩] := rfl
  have others : ((List.range text.length).map Nat.succ).flatMap (fun start =>
      (regex.node.outcomes text.toArray ⟨start, []⟩).map (·.thread regex.node.size start)) = [] := by
    refine List.flatMap_eq_nil_iff.mpr fun start member => ?_
    obtain ⟨before, inside, rfl⟩ := List.mem_map.mp member
    rw [late before (List.mem_range.mp inside), List.map_nil]
  rw [Regex.findPreferred solid, List.range_succ_eq_map, List.flatMap_cons, others, List.append_nil,
    List.head?_map, outcomes, first, List.flatMap_singleton, List.head?_flatMap, ends]

theorem findSomeChosen {α β γ : Type} {items : List α} {h : α → Option β} {p : α → Prop}
    [DecidablePred p] {f : β → γ} {g : α → γ}
    (each : ∀ x ∈ items, (h x).map f = if p x then some (g x) else none) :
    (items.findSome? h).map f = (items.find? (p ·)).map g := by
  induction items with
  | nil => rfl
  | cons x items ih =>
    rw [List.forall_mem_cons] at each
    by_cases chosen : p x
    · rw [if_pos chosen] at each
      obtain ⟨b, found, same⟩ := Option.map_eq_some_iff.mp each.1
      rw [List.findSome?_cons, found, List.find?_cons_of_pos (by simpa using chosen), Option.map_some,
        Option.map_some, same]
    · rw [if_neg chosen] at each
      rw [List.findSome?_cons, Option.map_eq_none_iff.mp each.1,
        List.find?_cons_of_neg (by simpa using chosen)]
      exact ih each.2

end

/- A plain template captures from the first end of its segments that only a query or a fragment
is left behind. -/
theorem capturesFirst {segments : List PlainSegment} {p : PathPattern} (filled : segments ≠ [])
    (plain : ∀ s ∈ segments, s.IsPlain)
    (compiled : PathPattern.compile (template segments) = .ok p) (path : String) :
    p.captures? path =
      ((ends segments path.toList).find? fun u => IsTail (path.toList.drop u.pos)).map fun u =>
        slugTexts segments path.toList u.slots := by
  rw [← templatePlain] at compiled
  have node := Part.compiledNode (partsFilled filled) (List.forall_mem_map.mpr plain) compiled
  rw [sourceNodesPlain] at node
  have count : p.regex.groupCount - tailGroups = slugTotal segments := by
    rw [Regex.groupCount, node, sourceGroups, Nat.add_sub_cancel]
  rw [PathPattern.captures?, findSource segments node, Option.map_map, count,
    ← findSomeChosen fun u member => tailChosen segments member]
  rfl

end PlainSegment
end Signpost.Route
