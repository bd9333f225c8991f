import Signpost.Proofs.Regex.Nesting
import Signpost.Proofs.Route.PartTemplate
import Signpost.Proofs.Route.PlainNodes

/-! The expression that the source of a template with bodies is read as, and its node: each
body in the group of its slug as it is on its own. -/
namespace Signpost.Route
open Regex (Chars Expr Node Reader)
open List (Forall₂)

namespace Part

def slugs (p : Part) : Nat := if p.isSlug then 1 else 0

def slugTotal : List Part → Nat
  | [] => 0
  | p :: rest => p.slugs + slugTotal rest

def items (index : Nat) : Part → List Expr
  | plain s => s.items index
  | slug _ _ body => [.group (.capture index) body.expr]

def pathItems (index : Nat) : List Part → List Expr
  | [] => []
  | p :: rest => charItem '/' :: (p.items index ++ pathItems (index + p.slugs) rest)

def sourceItems (parts : List Part) : List Expr :=
  .anchor .lineStart :: (pathItems 1 parts ++ tailItems (slugTotal parts + 1))

def nodes (index : Nat) : Part → List Node
  | plain s => s.nodes index
  | slug _ _ body => [.group (some index) body.regex.node]

def pathNodes (index : Nat) : List Part → List Node
  | [] => []
  | p :: rest => .set (.single '/') :: (p.nodes index ++ pathNodes (index + p.slugs) rest)

def sourceNodes (parts : List Part) : List Node :=
  .look .textStart :: (pathNodes 1 parts ++ tailNodes (slugTotal parts + 1))

theorem readsPart {p : Part} {r : Reader} {rest : Chars} (legal : p.Legal)
    (eager : rest.head? ≠ some '?') (silent : r.verbose = false) :
    r.Reads (p.segment.source ++ rest) (r.advance (p.items (r.captures + 1)) p.slugs) rest := by
  cases p with
  | plain s => exact PlainSegment.readsSegment legal eager silent
  | slug braced name body =>
    simpa [segment, Segment.source, items, slugs, isSlug] using
      Reader.readsBody rest silent body.read body.bare

theorem readsPath {parts : List Part} {r : Reader} {rest : Chars}
    (legal : ∀ p ∈ parts, p.Legal) (eager : rest.head? ≠ some '?') (silent : r.verbose = false) :
    r.Reads (parts.flatMap (fun p => '/' :: p.segment.source) ++ rest)
      (r.advance (pathItems (r.captures + 1) parts) (slugTotal parts)) rest := by
  induction parts generalizing r with
  | nil => exact .stay _ _
  | cons p parts ih =>
    have slash : r.Reads ('/' :: (p.segment.source ++
        (parts.flatMap (fun p => '/' :: p.segment.source) ++ rest)))
        (r.advance [charItem '/'] 0)
        (p.segment.source ++ (parts.flatMap (fun p => '/' :: p.segment.source) ++ rest)) :=
      Reader.readsChar (by decide) silent
    have more : (parts.flatMap (fun p => '/' :: p.segment.source) ++ rest).head? ≠ some '?' := by
      cases parts with
      | nil => exact eager
      | cons q parts => simp
    have first := readsPart (r := r.advance [charItem '/'] 0) (legal p List.mem_cons_self) more silent
    have others := ih (r := (r.advance [charItem '/'] 0).advance (p.items (r.captures + 1)) p.slugs)
      (fun q member => legal q (List.mem_cons_of_mem p member)) silent
    have before : (r.advance [charItem '/'] 0).captures = r.captures := rfl
    have behind : ((r.advance [charItem '/'] 0).advance (p.items (r.captures + 1)) p.slugs).captures
        = r.captures + p.slugs := rfl
    rw [before] at first
    rw [behind] at others
    have whole := Reader.readsAppend (m := 0) slash (Reader.readsAppend first others)
    have place : r.captures + p.slugs + 1 = r.captures + 1 + p.slugs := by omega
    simpa [pathItems, slugTotal, place] using whole

/- The source up to the text behind some parts. -/
theorem readsFront {parts : List Part} {rest : Chars} (legal : ∀ p ∈ parts, p.Legal)
    (eager : rest.head? ≠ some '?') :
    ({} : Reader).Reads ('^' :: (parts.flatMap (fun p => '/' :: p.segment.source) ++ rest))
      (({} : Reader).advance (.anchor .lineStart :: pathItems 1 parts) (slugTotal parts)) rest := by
  have first : ({} : Reader).Reads
      ('^' :: (parts.flatMap (fun p => '/' :: p.segment.source) ++ rest))
      (({} : Reader).advance [.anchor .lineStart] 0)
      (parts.flatMap (fun p => '/' :: p.segment.source) ++ rest) :=
    Reader.readsStep rfl rfl (Nat.le_refl _)
  have path := readsPath (r := ({} : Reader).advance [.anchor .lineStart] 0) legal eager rfl
  rw [← Nat.zero_add (slugTotal parts)]
  exact Reader.readsAppend first path

theorem readsSource {parts : List Part} (filled : parts ≠ []) (legal : ∀ p ∈ parts, p.Legal) :
    ({} : Reader).Reads (assemble (parts.map segment))
      (({} : Reader).advance (sourceItems parts) (slugTotal parts + 2)) [] := by
  have slashed : assemble (parts.map segment) =
      '^' :: (parts.flatMap (fun p => '/' :: p.segment.source) ++ tailSource) := by
    rw [assemble, ← List.cons_append, Text.consIntercalate (by simpa using filled), List.map_map,
      List.flatMap_map]
    rfl
  rw [slashed]
  have front := readsFront legal (show tailSource.head? ≠ some '?' by decide)
  have tail := readsTail (r := ({} : Reader).advance (.anchor .lineStart :: pathItems 1 parts)
    (slugTotal parts)) rfl
  simpa [sourceItems, Reader.advance] using Reader.readsAppend front tail

theorem partItemsWorked (p : Part) (index : Nat) :
    Forall₂ WorkedInto (p.items index) (p.nodes index) := by
  cases p with
  | plain s => exact PlainSegment.segmentItemsWorked s index
  | slug braced name body =>
    refine .cons ?_ .nil
    rw [WorkedInto, Expr.node, body.worked.1]
    rfl

theorem pathItemsWorked (parts : List Part) (index : Nat) :
    Forall₂ WorkedInto (pathItems index parts) (pathNodes index parts) := by
  induction parts generalizing index with
  | nil => exact .nil
  | cons p rest ih =>
    exact .cons (charWorked '/') (List.rel_append (partItemsWorked p index) (ih _))

theorem sourceItemsWorked (parts : List Part) :
    Forall₂ WorkedInto (sourceItems parts) (sourceNodes parts) := by
  refine .cons rfl (List.rel_append (pathItemsWorked parts 1) ?_)
  exact .cons (tailWorked _ '?') (.cons (tailWorked _ '#') (.cons rfl .nil))

/- What a template is compiled to, if it is compiled at all. -/
theorem compiledNode {parts : List Part} {p : PathPattern} (filled : parts ≠ [])
    (legal : ∀ p ∈ parts, p.Legal) (compiled : PathPattern.compile (template parts) = .ok p) :
    p.regex.node = Node.chain (sourceNodes parts) := by
  obtain ⟨rest, segments, slash, split, built, _⟩ := PathPattern.compileSteps compiled
  rw [template, String.toList_ofList] at slash
  cases slash
  rw [readSegmentsParts filled legal] at split
  cases split
  obtain ⟨r, f, all, _, worked, _⟩ := Regex.compileSteps built
  rw [String.toList_ofList, Reader.readsEnd (readsSource filled legal)] at all
  cases all
  have items : (({} : Reader).advance (sourceItems parts) (slugTotal parts + 2)).items =
      (sourceItems parts).reverse := List.append_nil _
  have inside : (({} : Reader).advance (sourceItems parts) (slugTotal parts + 2)).inside =
      Expr.chain (sourceItems parts) := by
    rw [Reader.inside, items, Expr.sequenceReverse]
    rfl
  rw [inside, Expr.chainNode (sourceItemsWorked parts)] at worked
  exact (Prod.mk.inj (Except.ok.inj worked)).1.symm

theorem partGroups (p : Part) {index : Nat} (positive : 0 < index) :
    ∀ a ∈ p.nodes index, a.lastGroup < index + p.slugs := by
  cases p with
  | plain s => exact PlainSegment.segmentGroups s positive
  | slug braced name body =>
    intro a member
    cases List.mem_singleton.mp member
    have group : (Node.group (some index) body.regex.node).lastGroup = index := by
      rw [Node.lastGroup, Node.groupsBare body.worked.2]
      exact Nat.max_eq_left (Nat.zero_le index)
    rw [group]
    exact Nat.lt_succ_self index

theorem pathGroups (parts : List Part) {index : Nat} (positive : 0 < index) :
    ∀ a ∈ pathNodes index parts, a.lastGroup < index + slugTotal parts := by
  induction parts generalizing index with
  | nil => exact fun a member => by cases member
  | cons p rest ih =>
    have total : slugTotal (p :: rest) = p.slugs + slugTotal rest := rfl
    intro a member
    rcases List.mem_cons.mp member with rfl | member
    · exact Nat.lt_of_lt_of_le positive (Nat.le_add_right _ _)
    · rcases List.mem_append.mp member with member | member
      · have inside := partGroups p positive a member
        omega
      · have inside := ih (show 0 < index + p.slugs by omega) a member
        omega

/- The two groups of the tail come after the slugs. -/
theorem sourceGroups (parts : List Part) :
    (Node.chain (sourceNodes parts)).lastGroup = slugTotal parts + tailGroups := by
  apply Nat.le_antisymm
  · refine Node.chainBound fun a member => ?_
    rcases List.mem_cons.mp member with rfl | member
    · exact Nat.zero_le _
    · rcases List.mem_append.mp member with member | member
      · have inside := pathGroups parts Nat.one_pos a member
        rw [tailGroups]
        omega
      · simp only [tailNodes, List.mem_cons, List.not_mem_nil, or_false] at member
        rcases member with rfl | rfl | rfl
        · exact Nat.le_succ _
        · exact Nat.le_refl _
        · exact Nat.zero_le _
  · exact Node.chainReaches (a := tailNode (slugTotal parts + 1 + 1) '#')
      (by simp [sourceNodes, tailNodes])

theorem valuesCounted {parts : List Part} {p : PathPattern} (filled : parts ≠ [])
    (legal : ∀ p ∈ parts, p.Legal) (compiled : PathPattern.compile (template parts) = .ok p) :
    p.regex.groupCount - tailGroups = slugTotal parts := by
  rw [Regex.groupCount, compiledNode filled legal compiled, sourceGroups, Nat.add_sub_cancel]

end Part
end Signpost.Route
