import Mathlib.Data.List.Forall2
import Signpost.Proofs.Route.Spelling
import Signpost.Route.PathPattern

/-! Plain templates: segments of literal text, slugs without a body of their own and single
wildcards. They are written out here with what a path is to hold for each of them, and read
back from their text. -/
namespace Signpost.Route
open Segment (isLegalName escaped defaultBody)

/- The ways to write a slug that has the default body. -/
inductive Spelling
  | colon | braces | emptyBody
  deriving DecidableEq, Repr

inductive PlainSegment
  | literal (text : List Char)
  | slug (spelling : Spelling) (name : List Char)
  | wildcard (deep : Bool) (before after : List Char)
  deriving DecidableEq, Repr

namespace PlainSegment

/- What has a meaning of its own in a template or in an expression. -/
def signs : List Char := "/\\()[]\x7b\x7d+?|*".toList

def IsLiteral (text : List Char) : Prop := (∀ c ∈ text, c ∉ signs) ∧ text.head? ≠ some ':'

instance (text : List Char) : Decidable (IsLiteral text) :=
  decidable_of_iff ((text.all fun c => !signs.contains c) = true ∧ text.head? ≠ some ':')
    (by simp [IsLiteral])

/- A name behind a colon may hold a parenthesis, if it does not end in one that closes a
body. -/
def Legal : PlainSegment → Prop
  | literal text => IsLiteral text
  | slug .colon name =>
    isLegalName name = true ∧ '/' ∉ name ∧ ¬ ('(' ∈ name ∧ name.getLast? = some ')')
  | slug _ name => isLegalName name = true ∧ '/' ∉ name ∧ ':' ∉ name
  | wildcard _ before after => IsLiteral before ∧ IsLiteral after

instance : (s : PlainSegment) → Decidable s.Legal
  | literal text => inferInstanceAs (Decidable (IsLiteral text))
  | slug .colon name => inferInstanceAs (Decidable (isLegalName name = true ∧ '/' ∉ name ∧
      ¬ ('(' ∈ name ∧ name.getLast? = some ')')))
  | slug .braces name | slug .emptyBody name =>
    inferInstanceAs (Decidable (isLegalName name = true ∧ '/' ∉ name ∧ ':' ∉ name))
  | wildcard _ before after => inferInstanceAs (Decidable (IsLiteral before ∧ IsLiteral after))

/- All that is needed to be read as it is meant: behind a wildcard a colon has no meaning. -/
def IsPlain : PlainSegment → Prop
  | literal text => IsLiteral text
  | slug spelling name => Legal (slug spelling name)
  | wildcard _ before after => IsLiteral before ∧ ∀ c ∈ after, c ∉ signs

instance : (s : PlainSegment) → Decidable s.IsPlain
  | literal text => inferInstanceAs (Decidable (IsLiteral text))
  | slug spelling name => inferInstanceAs (Decidable (Legal (slug spelling name)))
  | wildcard _ before after =>
    decidable_of_iff (IsLiteral before ∧ (after.all fun c => !signs.contains c) = true)
      (by simp [IsPlain])

theorem Legal.isPlain {s : PlainSegment} (legal : s.Legal) : s.IsPlain := by
  cases s with
  | literal text => exact legal
  | slug spelling name => exact legal
  | wildcard deep before after => exact ⟨legal.1, legal.2.1⟩

def text : PlainSegment → List Char
  | literal text => text
  | slug .colon name => ':' :: name
  | slug .braces name => '\x7b' :: (name ++ ['\x7d'])
  | slug .emptyBody name => '\x7b' :: (name ++ [':', '\x7d'])
  | wildcard false before after => before ++ '*' :: after
  | wildcard true before after => before ++ '*' :: '*' :: after

def Piece : PlainSegment → List Char → Prop
  | literal text, w => w = text
  | slug _ _, w => w ≠ [] ∧ ∀ c ∈ w, c ∉ ['/', '?', '#']
  | wildcard false before after, w => ∃ u, u ≠ [] ∧ '/' ∉ u ∧ w = before ++ u ++ after
  | wildcard true before after, w =>
    ∃ a b, '\n' ∉ a ∧ b ≠ [] ∧ '/' ∉ b ∧ w = before ++ a ++ b ++ after

def isSlug : PlainSegment → Bool
  | slug _ _ => true
  | _ => false

def values : List PlainSegment → List (List Char) → List (List Char)
  | s :: segments, w :: pieces => if s.isSlug then w :: values segments pieces else values segments pieces
  | _, _ => []

def template (segments : List PlainSegment) : String :=
  String.ofList ('/' :: ['/'].intercalate (segments.map text))

/- A query or a fragment, or nothing. -/
def IsTail (tail : List Char) : Prop :=
  tail = [] ∨ (tail.head? = some '?' ∨ tail.head? = some '#') ∧ '\n' ∉ tail

/- The path is cut into a piece for each segment, with a slash before each, and a tail. -/
structure Cut (segments : List PlainSegment) (path : List Char) (pieces : List (List Char)) : Prop where
  fit : List.Forall₂ Piece segments pieces
  tail : ∃ tail, IsTail tail ∧ path = '/' :: (['/'].intercalate pieces ++ tail)

def segment : PlainSegment → Segment
  | literal text => .pattern (escaped text)
  | slug _ name => .slug name defaultBody
  | wildcard false before after => .pattern (escaped before ++ "[^/]+".toList ++ escaped after)
  | wildcard true before after => .pattern (escaped before ++ ".*[^/]+".toList ++ escaped after)

theorem signFree {text : List Char} (free : ∀ c ∈ text, c ∉ signs) (c : Char) (sign : c ∈ signs) :
    c ∉ text := fun member => free c member sign

theorem slashFree {s : PlainSegment} (plain : s.IsPlain) : '/' ∉ s.text := by
  cases s with
  | literal text => exact signFree plain.1 '/' (by decide)
  | slug spelling name =>
    cases spelling <;> simpa [text] using plain.2.1
  | wildcard deep before after =>
    have first := signFree plain.1.1 '/' (by decide)
    have second := signFree plain.2 '/' (by decide)
    cases deep <;> simp [text, first, second]

theorem signHead {text : List Char} (free : ∀ c ∈ text, c ∉ signs) (c : Char) (sign : c ∈ signs) :
    text.head? ≠ some c := by
  intro head
  exact signFree free c sign (List.mem_of_mem_head? head)

theorem notSlug {text : List Char} (colon : text.head? ≠ some ':')
    (brace : text.head? ≠ some '\x7b') : ¬ Segment.IsSlug text :=
  fun slug => slug.elim colon fun given => brace given.2.1

theorem wildcardNotSlug {before : List Char} (plain : IsLiteral before) (after : List Char) :
    ¬ Segment.IsSlug (before ++ '*' :: after) := by
  cases before with
  | nil => exact notSlug (by simp) (by simp)
  | cons c cs =>
    refine notSlug plain.2 ?_
    have brace := signHead plain.1 '\x7b' (by decide)
    simpa using brace

theorem slugSpells {spelling : Spelling} {name : List Char} (legal : Legal (.slug spelling name)) :
    Segment.Spells (text (.slug spelling name)) name defaultBody := by
  cases spelling with
  | colon => exact .colon legal.2.2
  | braces => exact .braces legal.2.2
  | emptyBody =>
    have spelled := Segment.Spells.emptyBody legal.2.2
    rwa [List.append_assoc] at spelled

theorem standsFor {s : PlainSegment} (plain : s.IsPlain) : Segment.StandsFor s.text s.segment := by
  cases s with
  | literal text =>
    exact .literal (notSlug plain.2 (signHead plain.1 '\x7b' (by decide)))
      (signFree plain.1 '*' (by decide))
  | slug spelling name =>
    have legal : Legal (.slug spelling name) := plain
    have named : isLegalName name = true := by cases spelling <;> exact legal.1
    obtain ⟨c, member, good⟩ := Segment.legalExactly.mp named
    exact .slug (slugSpells legal) member good
  | wildcard deep before after =>
    have free := signFree plain.1.1 '*' (by decide)
    have ended := signHead plain.2 '*' (by decide)
    cases deep with
    | false => exact .single (wildcardNotSlug plain.1 after) ⟨by simp [text], free, ended⟩
    | true =>
      exact .double (wildcardNotSlug plain.1 ('*' :: after))
        ⟨by simp [text, List.replicate_succ], free, ended⟩

end PlainSegment
end Signpost.Route
