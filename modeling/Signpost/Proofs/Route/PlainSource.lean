import Signpost.Proofs.Regex.Nesting
import Signpost.Proofs.Regex.Sequence
import Signpost.Proofs.Route.PlainTemplate

/-! The expression that the source of a plain template is read as: one item for each
character, one for each slug, and the parts of the wildcards, in the order of the segments. -/
namespace Signpost.Route
open Regex (Chars Expr Reader)

def charItem (c : Char) : Expr := .literal ⟨c, false⟩

def segmentItem : Expr := .times 1 none true (.bracket true (.literal ⟨'/', false⟩))

def slugItem : Expr :=
  .times 1 none true (.bracket true
    (.both (.both (.literal ⟨'/', false⟩) (.literal ⟨'?', false⟩)) (.literal ⟨'#', false⟩)))

def anyItem : Expr := .times 0 none true .dot

def tailItem (index : Nat) (sign : Char) : Expr :=
  .times 0 (some 1) true
    (.group (.capture index) (.seq (.bracket false (.literal ⟨sign, false⟩)) anyItem))

def tailItems (index : Nat) : List Expr :=
  [tailItem index '?', tailItem (index + 1) '#', .anchor .lineEnd]

namespace PlainSegment

def slugs (s : PlainSegment) : Nat := if s.isSlug then 1 else 0

def items (index : Nat) : PlainSegment → List Expr
  | literal text => text.map charItem
  | slug _ _ => [.group (.capture index) slugItem]
  | wildcard false before after => before.map charItem ++ (segmentItem :: after.map charItem)
  | wildcard true before after =>
    before.map charItem ++ (anyItem :: segmentItem :: after.map charItem)

def slugTotal : List PlainSegment → Nat
  | [] => 0
  | s :: rest => s.slugs + slugTotal rest

def pathItems (index : Nat) : List PlainSegment → List Expr
  | [] => []
  | s :: rest => charItem '/' :: (s.items index ++ pathItems (index + s.slugs) rest)

def sourceItems (segments : List PlainSegment) : List Expr :=
  .anchor .lineStart :: (pathItems 1 segments ++ tailItems (slugTotal segments + 1))

end PlainSegment

open Segment (escaped defaultBody)

theorem openerSigns : ∀ c ∈ Reader.openers, c ∈ PlainSegment.signs ∨ c ∈ ['.', '^', '$'] := by
  have all : Reader.openers.all (fun c => PlainSegment.signs.contains c ||
      ['.', '^', '$'].contains c) = true := by decide
  simpa only [List.all_eq_true, Bool.or_eq_true, List.contains_iff_mem] using all

theorem readsText {r : Reader} {text rest : Chars} (plain : ∀ c ∈ text, c ∉ PlainSegment.signs)
    (silent : r.verbose = false) :
    r.Reads (escaped text ++ rest) (r.advance (text.map charItem) 0) rest := by
  induction text generalizing r with
  | nil => exact .stay _ _
  | cons c text ih =>
    have others := ih (r := r.advance [charItem c] 0)
      (fun d member => plain d (List.mem_cons_of_mem c member)) silent
    have first : r.Reads (escaped (c :: text) ++ rest) (r.advance [charItem c] 0)
        (escaped text ++ rest) := by
      rw [escaped, List.flatMap_cons, ← escaped, List.append_assoc]
      by_cases sign : c = '.' ∨ c = '^' ∨ c = '$'
      · rw [if_pos sign]
        exact Reader.readsEscaped (by simpa using sign) silent
      · rw [if_neg sign]
        refine Reader.readsChar (fun opener => ?_) silent
        rcases openerSigns c opener with other | escaped
        · exact plain c List.mem_cons_self other
        · exact sign (by simpa using escaped)
    rw [List.map_cons, ← List.singleton_append]
    exact Reader.readsAppend (m := 0) (n := 0) first others

theorem readsSegmentItem {r : Reader} {rest : Chars} (eager : rest.head? ≠ some '?')
    (silent : r.verbose = false) :
    r.Reads ("[^/]+".toList ++ rest) (r.advance [segmentItem] 0) rest := by
  have bracket : r.Reads ("[^/]+".toList ++ rest)
      (r.push (.bracket true (.literal ⟨'/', false⟩))) ('+' :: rest) :=
    Reader.readsClass silent rfl (by simp)
  exact Reader.readsTrans bracket (Reader.readsPlus rfl eager silent)

theorem readsAnyItem {r : Reader} {rest : Chars} (eager : rest.head? ≠ some '?')
    (silent : r.verbose = false) :
    r.Reads ('.' :: '*' :: rest) (r.advance [anyItem] 0) rest := by
  have dot : r.Reads ('.' :: '*' :: rest) (r.push .dot) ('*' :: rest) :=
    Reader.readsStep silent rfl (Nat.le_refl _)
  exact Reader.readsTrans dot (Reader.readsStar rfl eager silent)

theorem defaultRead : Expr.read defaultBody = .ok slugItem := rfl

theorem readsSlug {r : Reader} (rest : Chars) (silent : r.verbose = false) :
    r.Reads ('(' :: (defaultBody ++ ')' :: rest))
      (r.advance [.group (.capture (r.captures + 1)) slugItem] 1) rest :=
  Reader.readsBody rest silent defaultRead rfl

theorem readsTailItem {r : Reader} {sign : Char} {rest : Chars} (asks : sign = '?' ∨ sign = '#')
    (eager : rest.head? ≠ some '?') (silent : r.verbose = false) :
    r.Reads ('(' :: '[' :: sign :: "].*)?".toList ++ rest)
      (r.advance [tailItem (r.captures + 1) sign] 1) rest := by
  have body : Expr.read ('[' :: sign :: "].*".toList) =
      .ok (.seq (.bracket false (.literal ⟨sign, false⟩)) anyItem) := by
    rcases asks with rfl | rfl <;> rfl
  have group : r.Reads ('(' :: '[' :: sign :: "].*)?".toList ++ rest) _ ('?' :: rest) :=
    Reader.readsBody ('?' :: rest) silent body rfl
  have counted : { r with captures := r.captures + 1 }.verbose = false := silent
  exact Reader.readsTrans group (Reader.readsOptional rfl eager counted)

theorem readsTail {r : Reader} (silent : r.verbose = false) :
    r.Reads tailSource (r.advance (tailItems (r.captures + 1)) 2) [] := by
  have query : r.Reads tailSource _ "([#].*)?$".toList :=
    readsTailItem (.inl rfl) (by decide) silent
  have fragment : (r.advance [tailItem (r.captures + 1) '?'] 1).Reads "([#].*)?$".toList _ ['$'] :=
    readsTailItem (.inr rfl) (by decide) silent
  have anchor : ((r.advance [tailItem (r.captures + 1) '?'] 1).advance
      [tailItem (r.captures + 1 + 1) '#'] 1).Reads ['$'] _ [] :=
    Reader.readsStep silent rfl (Nat.le_refl _)
  exact Reader.readsTrans query (Reader.readsTrans fragment anchor)

namespace PlainSegment

theorem eagerText {text rest : Chars} (free : ∀ c ∈ text, c ∉ signs) (eager : rest.head? ≠ some '?') :
    (escaped text ++ rest).head? ≠ some '?' := by
  cases text with
  | nil => exact eager
  | cons c text =>
    rw [escaped, List.flatMap_cons, ← escaped]
    have sign := signFree free '?' (by decide)
    rw [List.mem_cons, not_or] at sign
    split
    · simp
    · simpa using Ne.symm sign.1

theorem readsSegment {s : PlainSegment} {r : Reader} {rest : Chars} (plain : s.IsPlain)
    (eager : rest.head? ≠ some '?') (silent : r.verbose = false) :
    r.Reads (s.segment.source ++ rest) (r.advance (s.items (r.captures + 1)) s.slugs) rest := by
  cases s with
  | literal text => exact readsText plain.1 silent
  | slug spelling name =>
    simpa [segment, Segment.source, items, slugs, isSlug] using readsSlug rest silent
  | wildcard deep before after =>
    have front : ∀ rest, r.Reads (escaped before ++ rest) (r.advance (before.map charItem) 0) rest :=
      fun rest => readsText plain.1.1 silent
    have back : ∀ q : Reader, q.verbose = false → q.Reads ("[^/]+".toList ++ (escaped after ++ rest))
        (q.advance ([segmentItem] ++ after.map charItem) 0) rest := by
      intro q silent
      exact Reader.readsAppend (m := 0) (n := 0) (readsSegmentItem (eagerText plain.2 eager) silent)
        (readsText plain.2 silent)
    cases deep with
    | false =>
      have whole := Reader.readsAppend (m := 0) (n := 0) (front _) (back _ silent)
      simpa [segment, Segment.source, items, slugs, isSlug] using whole
    | true =>
      have any : (r.advance (before.map charItem) 0).Reads
          ('.' :: '*' :: ("[^/]+".toList ++ (escaped after ++ rest))) _ _ :=
        readsAnyItem (by simp) silent
      have whole := Reader.readsAppend (m := 0) (n := 0) (front _)
        (Reader.readsAppend (m := 0) (n := 0) any (back _ silent))
      simpa [segment, Segment.source, items, slugs, isSlug] using whole

end PlainSegment
end Signpost.Route
