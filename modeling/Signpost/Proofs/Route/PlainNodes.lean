import Signpost.Proofs.Route.PlainSource

/-! The node of a plain template, and that nothing but its size can keep it from being
compiled. -/
namespace Signpost.Route
open Regex (Expr Node Flags)

def segmentNode : Node := .repeated 1 none true (.set (.compl (.single '/')))

def slugNode : Node :=
  .repeated 1 none true (.set (.compl (.union (.union (.single '/') (.single '?')) (.single '#'))))

def anyNode : Node := .repeated 0 none true (.set (.compl (.single '\n')))

def tailNode (index : Nat) (sign : Char) : Node :=
  .repeated 0 (some 1) true (.group (some index) (.seq (.set (.single sign)) anyNode))

def tailNodes (index : Nat) : List Node :=
  [tailNode index '?', tailNode (index + 1) '#', .look .textEnd]

namespace PlainSegment

def nodes (index : Nat) : PlainSegment → List Node
  | literal text => Node.literal text
  | slug _ _ => [.group (some index) slugNode]
  | wildcard false before after => Node.literal before ++ (segmentNode :: Node.literal after)
  | wildcard true before after =>
    Node.literal before ++ (anyNode :: segmentNode :: Node.literal after)

def pathNodes (index : Nat) : List PlainSegment → List Node
  | [] => []
  | s :: rest => .set (.single '/') :: (s.nodes index ++ pathNodes (index + s.slugs) rest)

def sourceNodes (segments : List PlainSegment) : List Node :=
  .look .textStart :: (pathNodes 1 segments ++ tailNodes (slugTotal segments + 1))

end PlainSegment

/- The item is worked into the node and leaves the flags as they are. -/
def WorkedInto (e : Expr) (a : Node) : Prop := e.node {} = .ok (a, {})

theorem charWorked (c : Char) : WorkedInto (charItem c) (.set (.single c)) := rfl

theorem segmentWorked : WorkedInto segmentItem segmentNode := rfl

theorem slugWorked (index : Nat) :
    WorkedInto (.group (.capture index) slugItem) (.group (some index) slugNode) := rfl

theorem anyWorked : WorkedInto anyItem anyNode := rfl

theorem tailWorked (index : Nat) (sign : Char) :
    WorkedInto (tailItem index sign) (tailNode index sign) := rfl

open List (Forall₂)

theorem textWorked (text : List Char) :
    Forall₂ WorkedInto (text.map charItem) (Node.literal text) := by
  induction text with
  | nil => exact .nil
  | cons c text ih => exact .cons (charWorked c) ih

namespace PlainSegment

theorem segmentItemsWorked (s : PlainSegment) (index : Nat) :
    Forall₂ WorkedInto (s.items index) (s.nodes index) := by
  cases s with
  | literal text => exact textWorked text
  | slug spelling name => exact .cons (slugWorked index) .nil
  | wildcard deep before after =>
    have rest := Forall₂.cons segmentWorked (textWorked after)
    cases deep with
    | false => exact List.rel_append (textWorked before) rest
    | true => exact List.rel_append (textWorked before) (.cons anyWorked rest)

theorem segmentItemsShallow (s : PlainSegment) (index : Nat) : ∀ e ∈ s.items index, e.depth ≤ 4 := by
  have chars : ∀ text : List Char, ∀ e ∈ text.map charItem, e.depth ≤ 4 := by
    intro text e member
    obtain ⟨c, _, rfl⟩ := List.mem_map.mp member
    exact Nat.zero_le _
  have segment : segmentItem.depth ≤ 4 := by decide
  have any : anyItem.depth ≤ 4 := by decide
  intro e member
  cases s with
  | literal text => exact chars text e member
  | slug spelling name =>
    cases List.mem_singleton.mp member
    exact Nat.le_refl 4
  | wildcard deep before after =>
    cases deep with
    | false =>
      rcases List.mem_append.mp member with member | member
      · exact chars before e member
      · rcases List.mem_cons.mp member with rfl | member
        · exact segment
        · exact chars after e member
    | true =>
      rcases List.mem_append.mp member with member | member
      · exact chars before e member
      · rcases List.mem_cons.mp member with rfl | member
        · exact any
        · rcases List.mem_cons.mp member with rfl | member
          · exact segment
          · exact chars after e member

theorem pathItemsShallow (segments : List PlainSegment) (index : Nat) :
    ∀ e ∈ pathItems index segments, e.depth ≤ 4 := by
  induction segments generalizing index with
  | nil => exact fun e member => by cases member
  | cons s rest ih =>
    intro e member
    rcases List.mem_cons.mp member with rfl | member
    · exact Nat.zero_le _
    · rcases List.mem_append.mp member with member | member
      · exact segmentItemsShallow s index e member
      · exact ih _ e member

theorem sourceItemsShallow (segments : List PlainSegment) :
    (Expr.chain (sourceItems segments)).depth ≤ Regex.depthLimit := by
  refine Nat.le_trans (Expr.chainDepth (n := 4) ?_) (by decide)
  intro e member
  rcases List.mem_cons.mp member with rfl | member
  · exact Nat.zero_le _
  · rcases List.mem_append.mp member with member | member
    · exact pathItemsShallow segments 1 e member
    · simp only [tailItems, List.mem_cons, List.not_mem_nil, or_false] at member
      rcases member with rfl | rfl | rfl
      · exact Nat.le_refl 4
      · exact Nat.le_refl 4
      · exact Nat.zero_le _

theorem segmentGroups (s : PlainSegment) {index : Nat} (positive : 0 < index) :
    ∀ a ∈ s.nodes index, a.lastGroup < index + s.slugs := by
  have chars : ∀ text n, ∀ a ∈ Node.literal text, a.lastGroup < index + n := by
    intro text n a member
    obtain ⟨c, _, rfl⟩ := List.mem_map.mp member
    exact Nat.lt_of_lt_of_le positive (Nat.le_add_right _ _)
  have bare : ∀ a : Node, a = segmentNode ∨ a = anyNode → a.lastGroup < index := by
    rintro a (rfl | rfl) <;> exact positive
  intro a member
  cases s with
  | literal text => exact chars text _ a member
  | slug spelling name =>
    cases List.mem_singleton.mp member
    have group : (Node.group (some index) slugNode).lastGroup = index :=
      Nat.max_eq_left (Nat.zero_le index)
    rw [group]
    exact Nat.lt_succ_self index
  | wildcard deep before after =>
    cases deep with
    | false =>
      rcases List.mem_append.mp member with member | member
      · exact chars before _ a member
      · rcases List.mem_cons.mp member with same | member
        · exact bare a (.inl same)
        · exact chars after _ a member
    | true =>
      rcases List.mem_append.mp member with member | member
      · exact chars before _ a member
      · rcases List.mem_cons.mp member with same | member
        · exact bare a (.inr same)
        · rcases List.mem_cons.mp member with same | member
          · exact bare a (.inl same)
          · exact chars after _ a member

end PlainSegment
end Signpost.Route
