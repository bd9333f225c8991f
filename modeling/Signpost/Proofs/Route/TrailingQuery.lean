import Mathlib.Data.List.Find
import Signpost.Proofs.Route.PlainPreference

/-! Query and fragment behind a path. Slugs and literal text leave them to the tail of the
template. A wildcard may take them for a part of its segment, unless a newline that is to come
behind it keeps it in front of them. -/
namespace Signpost.Route
open Regex (Point)
open List (Forall₂)

/- A query or a fragment that is there. -/
def Trailing (tail : List Char) : Prop :=
  (tail.head? = some '?' ∨ tail.head? = some '#') ∧ '\n' ∉ tail

def Unmarked (path : List Char) : Prop := '?' ∉ path ∧ '#' ∉ path

theorem unmarkedAppend {front back : List Char} :
    Unmarked (front ++ back) ↔ Unmarked front ∧ Unmarked back := by
  simp only [Unmarked, List.mem_append, not_or]
  constructor
  · rintro ⟨⟨a, b⟩, c, d⟩
    exact ⟨⟨a, c⟩, b, d⟩
  · rintro ⟨⟨a, c⟩, b, d⟩
    exact ⟨⟨a, b⟩, c, d⟩

/- What begins a query or a fragment is marked. -/
theorem unmarkedHead {text : List Char} (unmarked : Unmarked text) :
    text.head? ≠ some '?' ∧ text.head? ≠ some '#' :=
  ⟨fun head => unmarked.1 (List.mem_of_mem_head? head),
    fun head => unmarked.2 (List.mem_of_mem_head? head)⟩

theorem trailingMarked {tail : List Char} (trails : Trailing tail) : ¬ Unmarked tail := by
  intro unmarked
  have other := unmarkedHead unmarked
  exact trails.1.elim other.1 other.2

theorem trailingFront {front back : List Char} (some : front ≠ []) (trails : Trailing (front ++ back)) :
    Trailing front := by
  obtain ⟨head, single⟩ := trails
  rw [List.head?_append_of_ne_nil _ some] at head
  exact ⟨head, fun newline => single (List.mem_append_left _ newline)⟩

namespace PlainSegment

/- The text that stands for itself. -/
def fixed : PlainSegment → List Char
  | literal text => text
  | slug _ _ => []
  | wildcard _ before after => before ++ after

/- Some wildcard has no newline behind it, neither in its own segment nor in a later one. -/
def Exposed : List PlainSegment → Prop
  | [] => False
  | wildcard _ _ after :: rest =>
    '\n' ∉ after ∧ (∀ s ∈ rest, '\n' ∉ s.fixed) ∨ Exposed rest
  | _ :: rest => Exposed rest

/- Plain, and nothing in its own text begins a query or a fragment. -/
def IsTailless (s : PlainSegment) : Prop := s.IsPlain ∧ '#' ∉ s.fixed

instance (s : PlainSegment) : Decidable s.IsTailless :=
  inferInstanceAs (Decidable (s.IsPlain ∧ '#' ∉ s.fixed))

theorem fixedFree {s : PlainSegment} (plain : s.IsPlain) (c : Char) (sign : c ∈ signs) :
    c ∉ s.fixed := by
  cases s with
  | literal text => exact signFree plain.1 c sign
  | slug spelling name => simp [fixed]
  | wildcard deep before after =>
    simp [fixed, signFree plain.1.1 c sign, signFree plain.2 c sign]

theorem fixedUnmarked {s : PlainSegment} (plain : s.IsTailless) : Unmarked s.fixed :=
  ⟨fixedFree plain.1 '?' (by decide), plain.2⟩

theorem fixedWithin {s : PlainSegment} {w : List Char} (fits : s.Piece w) : s.fixed ⊆ w := by
  cases s with
  | literal text =>
    cases fits
    exact List.Subset.refl _
  | slug spelling name => exact List.nil_subset w
  | wildcard deep before after =>
    cases deep with
    | false =>
      obtain ⟨u, _, _, rfl⟩ := fits
      intro c member
      simp only [fixed, List.mem_append] at member ⊢
      tauto
    | true =>
      obtain ⟨a, b, _, _, _, rfl⟩ := fits
      intro c member
      simp only [fixed, List.mem_append] at member ⊢
      tauto

/- A piece of a wildcard ends in the text behind the wildcard. -/
theorem wildcardEnds {deep : Bool} {before after w : List Char}
    (fits : (wildcard deep before after).Piece w) : ∃ front, w = front ++ after ∧
      before.length < front.length := by
  cases deep with
  | false =>
    obtain ⟨u, some, _, rfl⟩ := fits
    have := List.length_pos_iff.mpr some
    exact ⟨before ++ u, rfl, by rw [List.length_append]; omega⟩
  | true =>
    obtain ⟨a, b, _, some, _, rfl⟩ := fits
    have := List.length_pos_iff.mpr some
    exact ⟨before ++ a ++ b, rfl, by rw [List.length_append, List.length_append]; omega⟩

section
variable {segments : List PlainSegment} {pieces : List (List Char)}

theorem fixedJoined (fit : Forall₂ Piece segments pieces) :
    ∀ s ∈ segments, s.fixed ⊆ joined pieces := by
  induction fit with
  | nil => exact fun s member => nomatch member
  | @cons s w segments pieces fits _ ih =>
    rw [joinedCons]
    intro t member c inside
    simp only [List.mem_append]
    rcases List.mem_cons.mp member with rfl | member
    · exact .inr (.inl (fixedWithin fits inside))
    · exact .inr (.inr (ih t member inside))

theorem exposedLater {s : PlainSegment} (exposed : Exposed segments) : Exposed (s :: segments) := by
  cases s with
  | literal text => exact exposed
  | slug spelling name => exact exposed
  | wildcard deep before after => exact .inr exposed

/- Neither literal text nor a slug takes what begins a query or a fragment. A wildcard that
has taken it has the newlines that stand behind it in what it has taken, or in later pieces. -/
theorem takenExposed {s : PlainSegment} {front taken : List Char} (plain : s.IsTailless)
    (fits : s.Piece (front ++ taken)) (fit : Forall₂ Piece segments pieces)
    (marked : ¬ Unmarked taken) (single : '\n' ∉ taken ++ joined pieces) :
    Exposed (s :: segments) := by
  rw [List.mem_append, not_or] at single
  cases s with
  | literal text =>
    have unmarked := fixedUnmarked plain
    rw [fixed, ← show front ++ taken = text from fits] at unmarked
    exact absurd (unmarkedAppend.mp unmarked).2 marked
  | slug spelling name =>
    have unmarked : Unmarked (front ++ taken) :=
      ⟨fun member => fits.2 _ member (by decide), fun member => fits.2 _ member (by decide)⟩
    exact absurd (unmarkedAppend.mp unmarked).2 marked
  | wildcard deep before after =>
    refine .inl ⟨fun newline => ?_, fun t member newline =>
      single.2 (fixedJoined fit t member newline)⟩
    obtain ⟨begins, ends, _⟩ := wildcardEnds fits
    rcases List.append_eq_append_iff.mp ends with ⟨more, _, behind⟩ | ⟨more, _, behind⟩
    · rw [behind] at single
      exact single.1 (List.mem_append_right _ newline)
    · have unmarked := (unmarkedAppend.mp (fixedUnmarked plain)).2
      rw [behind] at unmarked
      exact marked (unmarkedAppend.mp unmarked).2

/- If no wildcard is exposed, no part of a query or fragment is taken by a segment. By
induction on the segments: the tail begins in one of the pieces or at the end of one. -/
theorem joinedBefore {front tail : List Char} (plain : ∀ s ∈ segments, s.IsTailless)
    (hidden : ¬ Exposed segments) (fit : Forall₂ Piece segments pieces) (trails : Trailing tail) :
    joined pieces ≠ front ++ tail := by
  have slash : ∀ {text}, '/' :: text ≠ tail := by
    rintro text rfl
    rcases trails.1 with head | head <;> cases head
  induction fit generalizing front with
  | nil =>
    intro same
    obtain ⟨_, rfl⟩ := List.append_eq_nil_iff.mp same.symm
    rcases trails.1 with head | head <;> cases head
  | @cons s w segments pieces fits fit ih =>
    rw [List.forall_mem_cons] at plain
    have later : ∀ front, joined pieces ≠ front ++ tail := fun front =>
      ih plain.2 (fun exposed => hidden (exposedLater exposed))
    intro same
    cases front with
    | nil => exact slash same
    | cons c front =>
      have same : w ++ joined pieces = front ++ tail := (List.cons.inj same).2
      rcases List.append_eq_append_iff.mp same with ⟨more, _, rest⟩ | ⟨taken, piece, rest⟩
      · exact later more rest
      · by_cases nothing : taken = []
        · rw [nothing, List.nil_append] at rest
          exact later [] rest.symm
        · rw [rest] at trails
          rw [piece] at fits
          have marked := trailingMarked (trailingFront nothing trails)
          exact hidden (takenExposed plain.1 fits fit marked trails.2)

theorem cutJoined {path : List Char} (filled : segments ≠ []) :
    Cut segments path pieces ↔ Forall₂ Piece segments pieces ∧
      ∃ tail, IsTail tail ∧ path = joined pieces ++ tail := by
  constructor
  · intro cut
    obtain ⟨tail, ends, same⟩ := cut.tail
    have some := Part.piecesFilled (partsFilled filled) (fitPlain.mpr cut.fit)
    exact ⟨cut.fit, tail, ends, by rw [same, joinedPath some]⟩
  · intro given
    obtain ⟨fit, tail, ends, same⟩ := given
    have some := Part.piecesFilled (partsFilled filled) (fitPlain.mpr fit)
    exact ⟨fit, tail, ends, by rw [same, joinedPath some]⟩

theorem tailLonger {first second : List Char} (ends : IsTail first) (trails : Trailing second) :
    IsTail (first ++ second) := by
  rcases ends with rfl | ⟨head, single⟩
  · exact .inr trails
  · refine .inr ⟨?_, by rw [List.mem_append, not_or]; exact ⟨single, trails.2⟩⟩
    cases first with
    | nil => simp at head
    | cons c first => exact head

theorem cutLonger {path tail : List Char} (trails : Trailing tail)
    (cut : Cut segments path pieces) : Cut segments (path ++ tail) pieces := by
  obtain ⟨fit, first, ends, same⟩ := cut
  exact ⟨fit, first ++ tail, tailLonger ends trails, by simp [same]⟩

/- An unmarked path is cut without a tail. -/
theorem cutWhole {path : List Char} (filled : segments ≠ []) (unmarked : Unmarked path) :
    Cut segments path pieces ↔ Forall₂ Piece segments pieces ∧ path = joined pieces := by
  rw [cutJoined filled]
  refine and_congr_right fun _ => ⟨?_, fun same => ⟨[], .inl rfl, by rw [same, List.append_nil]⟩⟩
  intro given
  obtain ⟨tail, rfl | trails, same⟩ := given
  · rw [same, List.append_nil]
  · rw [same] at unmarked
    have other := unmarkedHead (unmarkedAppend.mp unmarked).2
    exact (trails.1.elim other.1 other.2).elim

theorem cutShorter {path tail : List Char} (filled : segments ≠ [])
    (plain : ∀ s ∈ segments, s.IsTailless) (hidden : ¬ Exposed segments) (unmarked : Unmarked path)
    (trails : Trailing tail) (cut : Cut segments (path ++ tail) pieces) :
    Cut segments path pieces := by
  obtain ⟨fit, last, ends, same⟩ := (cutJoined filled).mp cut
  refine (cutWhole filled unmarked).mpr ⟨fit, ?_⟩
  rcases List.append_eq_append_iff.mp same with ⟨more, longer, rest⟩ | ⟨more, shorter, rest⟩
  · by_cases nothing : more = []
    · rw [longer, nothing, List.append_nil]
    · rw [rest] at trails
      exact absurd longer (joinedBefore plain hidden fit (trailingFront nothing trails))
  · by_cases nothing : more = []
    · rw [shorter, nothing, List.append_nil]
    · rw [shorter] at unmarked
      rw [rest] at ends
      rcases ends with none | trails
      · exact absurd (List.append_eq_nil_iff.mp none).1 nothing
      · exact absurd (unmarkedAppend.mp unmarked).2 (trailingMarked (trailingFront nothing trails))

/- A cut in front of the end of the segments, and what is left behind it. -/
theorem cutEnds {path : List Char} (filled : segments ≠ []) (fit : Forall₂ Piece segments pieces) :
    Cut segments path pieces ↔
      joined pieces <+: path ∧ IsTail (path.drop (joined pieces).length) := by
  rw [cutJoined filled]
  constructor
  · intro given
    obtain ⟨_, tail, ends, rfl⟩ := given
    exact ⟨List.prefix_append _ _, by rwa [List.drop_left]⟩
  · intro given
    obtain ⟨⟨tail, rfl⟩, ends⟩ := given
    rw [List.drop_left] at ends
    exact ⟨fit, tail, ends, rfl⟩

/- A query or a fragment leaves the ends of the segments that count as they are. -/
theorem endsKept {path tail : List Char} {u : Point} (filled : segments ≠ [])
    (plain : ∀ s ∈ segments, s.IsTailless) (hidden : ¬ Exposed segments) (unmarked : Unmarked path)
    (trails : Trailing tail) (member : u ∈ ends segments (path ++ tail)) :
    IsTail ((path ++ tail).drop u.pos) ↔ u.pos ≤ path.length ∧ IsTail (path.drop u.pos) := by
  obtain ⟨pieces, fit, stands, rfl⟩ := (endsExact segments).mp member
  constructor
  · intro ends
    have cut := cutShorter filled plain hidden unmarked trails ((cutEnds filled fit).mpr ⟨stands, ends⟩)
    obtain ⟨stands, ends⟩ := (cutEnds filled fit).mp cut
    exact ⟨stands.length_le, ends⟩
  · intro given
    obtain ⟨inside, ends⟩ := given
    have stands := List.prefix_of_prefix_length_le stands (List.prefix_append path tail) inside
    have cut := cutLonger trails ((cutEnds filled fit).mpr ⟨stands, ends⟩)
    exact ((cutEnds filled fit).mp cut).2

end

theorem joinedSlashes (pieces : List (List Char)) :
    (joined pieces).count '/' = pieces.length + pieces.flatten.count '/' := by
  induction pieces with
  | nil => rfl
  | cons w pieces ih =>
    rw [joinedCons, List.count_append, List.count_append, ih, List.flatten_cons,
      List.count_append, List.length_cons, List.count_singleton_self]
    omega

theorem slashesOnly {pieces : List (List Char)} :
    (joined pieces).count '/' = pieces.length ↔ ∀ w ∈ pieces, '/' ∉ w := by
  rw [joinedSlashes, Nat.add_eq_left, List.count_eq_zero, List.mem_flatten]
  simp only [not_exists, not_and]

/- Pieces without slashes are found again between the slashes. -/
theorem joinedFields {pieces : List (List Char)} (free : ∀ w ∈ pieces, '/' ∉ w) :
    Text.fields '/' (joined pieces) = [] :: pieces := by
  by_cases nothing : pieces = []
  · subst nothing
    rfl
  · rw [joined, ← Text.consIntercalate nothing, Text.fields, if_pos rfl,
      Text.fieldsIntercalate nothing free]

/- With as many pieces all slashes of the path are taken, so none is left for a piece. -/
theorem joinedUnique {pieces others : List (List Char)} (free : ∀ w ∈ pieces, '/' ∉ w)
    (many : pieces.length ≤ others.length) (same : joined pieces = joined others) :
    pieces = others := by
  have slashes := slashesOnly.mpr free
  have otherwise := joinedSlashes others
  rw [← same] at otherwise
  have free' : ∀ w ∈ others, '/' ∉ w := by
    refine slashesOnly.mp ?_
    rw [← same]
    omega
  have fields := joinedFields free
  rw [same, joinedFields free'] at fields
  exact (List.cons.inj fields).2.symm

/- A piece for the segment. -/
def filler : PlainSegment → List Char
  | literal text => text
  | slug _ _ => ['x']
  | wildcard _ before after => before ++ 'x' :: after

theorem fillerFits (s : PlainSegment) : s.Piece s.filler := by
  cases s with
  | literal text => rfl
  | slug spelling name => exact ⟨by simp [filler], by simp [filler]⟩
  | wildcard deep before after =>
    cases deep with
    | false => exact ⟨['x'], by simp, by decide, by simp [filler]⟩
    | true => exact ⟨[], ['x'], by simp, by simp, by decide, by simp [filler]⟩

/- Of its own the filler adds a letter. -/
theorem fillerFree {s : PlainSegment} {c : Char} (other : c ≠ 'x') (free : c ∉ s.fixed) :
    c ∉ s.filler := by
  cases s with
  | literal text => exact free
  | slug spelling name => simpa [filler] using other
  | wildcard deep before after =>
    simp only [fixed, List.mem_append, not_or] at free
    simp [filler, free, other]

theorem exposedSplit {segments : List PlainSegment} (exposed : Exposed segments) :
    ∃ front deep before after rest, segments = front ++ wildcard deep before after :: rest ∧
      '\n' ∉ after ∧ ∀ s ∈ rest, '\n' ∉ s.fixed := by
  induction segments with
  | nil => cases exposed
  | cons s segments ih =>
    have further : Exposed segments → ∃ front deep before after rest,
        s :: segments = front ++ wildcard deep before after :: rest ∧
          '\n' ∉ after ∧ ∀ s ∈ rest, '\n' ∉ s.fixed := by
      intro exposed
      obtain ⟨front, deep, before, after, rest, rfl, single⟩ := ih exposed
      exact ⟨s :: front, deep, before, after, rest, rfl, single⟩
    cases s with
    | literal text => exact further exposed
    | slug spelling name => exact further exposed
    | wildcard deep before after =>
      rcases exposed with single | exposed
      · exact ⟨[], deep, before, after, segments, rfl, single⟩
      · exact further exposed

theorem fillersFit (segments : List PlainSegment) : Forall₂ Piece segments (segments.map filler) :=
  List.forall₂_map_right_iff.mpr (List.forall₂_same.mpr fun s _ => fillerFits s)

theorem fillersFree {segments : List PlainSegment} {c : Char} (other : c ≠ 'x')
    (free : ∀ s ∈ segments, c ∉ s.fixed) : ∀ w ∈ segments.map filler, c ∉ w :=
  List.forall_mem_map.mpr fun s member => fillerFree other (free s member)

theorem joinedFree {c : Char} {pieces : List (List Char)} (other : c ≠ '/')
    (free : ∀ w ∈ pieces, c ∉ w) : c ∉ joined pieces := by
  intro member
  obtain ⟨w, belongs, inside⟩ := List.mem_flatMap.mp member
  rcases List.mem_cons.mp inside with same | inside
  · exact other same
  · exact free w belongs inside

/- Up to the wildcard and the text in front of it. -/
def tight (front : List PlainSegment) (before : List Char) : List Char :=
  joined (front.map filler ++ [before])

section
variable {front rest : List PlainSegment} {deep : Bool} {before after : List Char}

theorem tightFree {c : Char} (other : c ≠ 'x') (own : c ∉ before) (free : ∀ s ∈ front, c ∉ s.fixed) :
    ∀ w ∈ front.map filler ++ [before], c ∉ w :=
  List.forall_mem_append.mpr ⟨fillersFree other free, List.forall_mem_singleton.mpr own⟩

theorem tightUnmarked (plain : ∀ s ∈ front, s.IsTailless)
    (own : (wildcard deep before after).IsTailless) : Unmarked (tight front before) := by
  have each := fun s member => fixedUnmarked (plain s member)
  have own := (unmarkedAppend.mp (fixedUnmarked own)).1
  exact ⟨joinedFree (by decide) (tightFree (by decide) own.1 fun s member => (each s member).1),
    joinedFree (by decide) (tightFree (by decide) own.2 fun s member => (each s member).2)⟩

/- With a query the wildcard has that to take. -/
theorem tightTakes : ∃ pieces, Cut (front ++ wildcard deep before after :: rest)
    (tight front before ++ '?' :: (after ++ joined (rest.map filler))) pieces := by
  have takes : Piece (wildcard deep before after) (before ++ '?' :: after) := by
    cases deep with
    | false => exact ⟨['?'], by simp, by decide, by simp⟩
    | true => exact ⟨[], ['?'], by simp, by simp, by decide, by simp⟩
  refine ⟨front.map filler ++ (before ++ '?' :: after) :: rest.map filler, ?_⟩
  refine (cutJoined (by simp)).mpr ⟨?_, [], .inl rfl, by simp [tight, joined]⟩
  exact List.rel_append (fillersFit front) (.cons takes (fillersFit rest))

/- There are just as many slashes as segments up to the wildcard, so without the query
nothing is left for it. -/
theorem tightUncut {pieces : List (List Char)} (plain : ∀ s ∈ front, s.IsTailless)
    (own : (wildcard deep before after).IsTailless) :
    ¬ Cut (front ++ wildcard deep before after :: rest) (tight front before) pieces := by
  intro cut
  obtain ⟨fit, same⟩ := (cutWhole (by simp) (tightUnmarked plain own)).mp cut
  have length := fit.length_eq
  simp only [List.length_append, List.length_cons] at length
  have slashFree := tightFree (by decide) (signFree own.1.1.1 '/' (by decide)) fun s member =>
    fixedFree (plain s member).1 '/' (by decide)
  obtain rfl := joinedUnique slashFree (by simp; omega) same
  have last : rest = [] := by
    simp only [List.length_append, List.length_map, List.length_singleton] at length
    exact List.eq_nil_of_length_eq_zero (by omega)
  subst last
  have backwards := List.forall₂_reverse_iff.mpr fit
  simp only [List.reverse_append, List.reverse_singleton, List.singleton_append] at backwards
  obtain ⟨takes, _⟩ := List.forall₂_cons.mp backwards
  obtain ⟨begins, ends, longer⟩ := wildcardEnds takes
  have lengths := congrArg List.length ends
  rw [List.length_append] at lengths
  omega

end

/- An exposed wildcard that has nothing else to take takes the tail. -/
theorem exposedTakes {segments : List PlainSegment} (plain : ∀ s ∈ segments, s.IsTailless)
    (exposed : Exposed segments) : ∃ path tail, Unmarked path ∧ Trailing tail ∧
      (∃ pieces, Cut segments (path ++ tail) pieces) ∧ ¬ ∃ pieces, Cut segments path pieces := by
  obtain ⟨front, deep, before, after, rest, rfl, single, singles⟩ := exposedSplit exposed
  rw [List.forall_mem_append, List.forall_mem_cons] at plain
  have behind := joinedFree (by decide) (fillersFree (by decide) singles)
  refine ⟨_, '?' :: (after ++ joined (rest.map filler)), tightUnmarked plain.1 plain.2.1,
    ⟨.inl rfl, by simp [single, behind]⟩, tightTakes, ?_⟩
  rintro ⟨pieces, cut⟩
  exact tightUncut plain.1 plain.2.1 cut

section
variable {segments : List PlainSegment} {p : PathPattern}

/- What is matched is matched with a tail, whatever the template. -/
theorem matchLonger (filled : segments ≠ []) (plain : ∀ s ∈ segments, s.IsTailless)
    (compiled : PathPattern.compile (template segments) = .ok p) {path tail : String}
    (trails : Trailing tail.toList) (hit : p.isMatch path = true) :
    p.isMatch (path ++ tail) = true := by
  have matches' := matchesPlain filled (fun s member => (plain s member).1) compiled
  obtain ⟨pieces, cut⟩ := (matches' path).mp hit
  exact (matches' _).mpr ⟨pieces, by rw [String.toList_append]; exact cutLonger trails cut⟩

theorem capturesKept (filled : segments ≠ []) (plain : ∀ s ∈ segments, s.IsTailless)
    (hidden : ¬ Exposed segments) (compiled : PathPattern.compile (template segments) = .ok p)
    {path tail : String} (unmarked : Unmarked path.toList) (trails : Trailing tail.toList) :
    p.captures? (path ++ tail) = p.captures? path := by
  have first := capturesFirst filled (fun s member => (plain s member).1) compiled
  rw [first, first, String.toList_append, endsShorter segments path.toList tail.toList,
    List.find?_filter]
  have agree : ∀ u ∈ ends segments (path.toList ++ tail.toList),
      decide (IsTail ((path.toList ++ tail.toList).drop u.pos)) =
        decide (decide (u.pos ≤ path.toList.length) = true ∧
          decide (IsTail (path.toList.drop u.pos)) = true) := by
    intro u member
    simp only [decide_eq_true_eq]
    exact decide_eq_decide.mpr (endsKept filled plain hidden unmarked trails member)
  rw [List.find?_congr agree]
  refine Option.map_congr fun u chosen => ?_
  have holds := List.find?_some chosen
  simp only [decide_eq_true_eq] at holds
  obtain ⟨pieces, fit, stands, rfl⟩ := (endsExact segments).mp (List.mem_of_find?_eq_some chosen)
  have shorter := List.prefix_of_prefix_length_le stands (List.prefix_append _ _) holds.1
  exact (slugTextsPieces segments fit stands).trans (slugTextsPieces segments fit shorter).symm

/- A query or a fragment behind a path never loses a match. It leaves every answer and all
values of slugs as they were exactly if no wildcard is exposed. -/
theorem tailIgnoredExactly (filled : segments ≠ []) (plain : ∀ s ∈ segments, s.IsTailless)
    (compiled : PathPattern.compile (template segments) = .ok p) :
    (∀ path tail : String, Trailing tail.toList → p.isMatch path = true →
      p.isMatch (path ++ tail) = true) ∧
    ((∀ path tail : String, Unmarked path.toList → Trailing tail.toList →
      p.captures? (path ++ tail) = p.captures? path) ↔ ¬ Exposed segments) := by
  refine ⟨fun _ _ => matchLonger filled plain compiled, ?_, fun hidden _ _ =>
    capturesKept filled plain hidden compiled⟩
  intro same exposed
  obtain ⟨path, tail, unmarked, trails, cut, none⟩ := exposedTakes plain exposed
  have matches' := matchesPlain filled (fun s member => (plain s member).1) compiled
  have equal := same (String.ofList path) (String.ofList tail)
    (by rwa [String.toList_ofList]) (by rwa [String.toList_ofList])
  have hit : p.isMatch (String.ofList path ++ String.ofList tail) = true := by
    rwa [matches', String.toList_append, String.toList_ofList, String.toList_ofList]
  rw [PathPattern.isMatchIsCaptured, equal, ← PathPattern.isMatchIsCaptured, matches',
    String.toList_ofList] at hit
  exact none hit

end

/- The segment of the wildcard has to have some text, and the query gives it. -/
theorem tailTaken : ∃ p, PathPattern.compile "/files/*" = .ok p ∧
    p.isMatch "/files/" = false ∧ p.isMatch "/files/?x" = true ∧
      ¬ ∀ path tail : String, Unmarked path.toList → Trailing tail.toList →
        p.captures? (path ++ tail) = p.captures? path := by
  obtain ⟨p, compiled, miss, hit⟩ : ∃ p, PathPattern.compile "/files/*" = .ok p ∧
      p.isMatch "/files/" = false ∧ p.isMatch "/files/?x" = true := by
    refine ⟨_, rfl, ?_, ?_⟩
    · decide +kernel
    · decide +kernel
  have plain : ∀ s ∈ [literal "files".toList, wildcard false [] []], s.IsTailless := by
    decide
  have exposed : Exposed [literal "files".toList, wildcard false [] []] :=
    .inl ⟨by simp, by simp⟩
  refine ⟨p, compiled, miss, hit, fun same => ?_⟩
  exact (tailIgnoredExactly (List.cons_ne_nil _ _) plain compiled).2.mp same exposed

end PlainSegment
end Signpost.Route
