import Signpost.Proofs.Regex.Bare
import Signpost.Proofs.Regex.Reading
import Signpost.Proofs.Route.Compilation
import Signpost.Proofs.Route.PlainTemplate

/-! Templates with bodies. A slug may bring an expression of its own, if it has no groups,
flags or anchors; all other segments are plain. -/
namespace Signpost.Route
open Segment (isLegalName defaultBody)
open PlainSegment (IsTail)
open List (Forall₂)

/- A body with what it is as an expression of its own. -/
structure Body where
  source : List Char
  expr : Regex.Expr
  regex : Regex
  read : Regex.Expr.read source = .ok expr
  compiled : Regex.compile (String.ofList source) = .ok regex
  bare : expr.isBare = true

theorem Body.worked (b : Body) :
    b.expr.node {} = .ok (b.regex.node, {}) ∧ b.regex.node.isBare = true := by
  obtain ⟨r, f, all, _, worked, _⟩ := Regex.compileSteps b.compiled
  obtain ⟨r', all', _, same⟩ := Regex.readExpr b.read
  rw [String.toList_ofList, all'] at all
  cases all
  rw [← same] at worked
  obtain ⟨rfl, bare⟩ := Regex.Expr.nodeBare b.bare worked
  exact ⟨worked, bare⟩

inductive Part
  | plain (segment : PlainSegment)
  | slug (braced : Bool) (name : List Char) (body : Body)

namespace Part

/- In braces an empty body would stand for the default one. -/
def Legal : Part → Prop
  | plain s => s.IsPlain
  | slug false name body =>
    isLegalName name = true ∧ '/' ∉ name ∧ '(' ∉ name ∧ '/' ∉ body.source
  | slug true name body =>
    isLegalName name = true ∧ '/' ∉ name ∧ ':' ∉ name ∧ '/' ∉ body.source ∧ body.source ≠ []

instance : (p : Part) → Decidable p.Legal
  | plain s => inferInstanceAs (Decidable s.IsPlain)
  | slug false name body => inferInstanceAs (Decidable (isLegalName name = true ∧ '/' ∉ name ∧
      '(' ∉ name ∧ '/' ∉ body.source))
  | slug true name body => inferInstanceAs (Decidable (isLegalName name = true ∧ '/' ∉ name ∧
      ':' ∉ name ∧ '/' ∉ body.source ∧ body.source ≠ []))

def text : Part → List Char
  | plain s => s.text
  | slug false name body => ':' :: (name ++ '(' :: (body.source ++ [')']))
  | slug true name body => '\x7b' :: (name ++ ':' :: body.source ++ ['\x7d'])

def Piece : Part → List Char → Prop
  | plain s, w => s.Piece w
  | slug _ _ body, w => body.regex.MatchesWhole w

def isSlug : Part → Bool
  | plain s => s.isSlug
  | slug _ _ _ => true

def values : List Part → List (List Char) → List (List Char)
  | p :: parts, w :: pieces => if p.isSlug then w :: values parts pieces else values parts pieces
  | _, _ => []

def template (parts : List Part) : String :=
  String.ofList ('/' :: ['/'].intercalate (parts.map text))

/- The path is cut into a piece for each part, with a slash before each, and a tail. -/
structure Cut (parts : List Part) (path : List Char) (pieces : List (List Char)) : Prop where
  fit : Forall₂ Piece parts pieces
  tail : ∃ tail, IsTail tail ∧ path = '/' :: (['/'].intercalate pieces ++ tail)

def segment : Part → Segment
  | plain s => s.segment
  | slug _ name body => .slug name body.source

theorem slashFree {p : Part} (legal : p.Legal) : '/' ∉ p.text := by
  cases p with
  | plain s => exact PlainSegment.slashFree legal
  | slug braced name body =>
    cases braced with
    | false => simp [text, legal.2.1, legal.2.2.2]
    | true => simp [text, legal.2.1, legal.2.2.2.1]

theorem standsFor {p : Part} (legal : p.Legal) : Segment.StandsFor p.text p.segment := by
  cases p with
  | plain s => exact PlainSegment.standsFor legal
  | slug braced name body =>
    have named : isLegalName name = true := by cases braced <;> exact legal.1
    obtain ⟨c, member, good⟩ := Segment.legalExactly.mp named
    cases braced with
    | false => exact .slug (.colonBody legal.2.2.1) member good
    | true => exact .slug (.bracesBody legal.2.2.1 legal.2.2.2.2) member good

theorem readSegmentsParts {parts : List Part} (filled : parts ≠ [])
    (legal : ∀ p ∈ parts, p.Legal) :
    readSegments (['/'].intercalate (parts.map text)) = .ok (parts.map segment) := by
  have pieces : Text.fields '/' (['/'].intercalate (parts.map text)) = parts.map text := by
    refine Text.fieldsIntercalate (by simpa using filled) fun piece member => ?_
    obtain ⟨p, belongs, rfl⟩ := List.mem_map.mp member
    exact slashFree (legal p belongs)
  have stand : Forall₂ Segment.StandsFor (parts.map text) (parts.map segment) := by
    rw [List.forall₂_map_left_iff, List.forall₂_map_right_iff, List.forall₂_same]
    exact fun p member => standsFor (legal p member)
  rw [readSegments, pieces, standRead stand]

end Part
end Signpost.Route
