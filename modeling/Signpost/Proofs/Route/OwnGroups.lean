import Signpost.Proofs.Regex.Spans
import Signpost.Proofs.Route.PartSource

/-! Where the groups of slugs stand. A slug is to have the group with its own number, and has it
if no part in front of it opens a group but those of the slugs there. -/
namespace Signpost.Route
open Regex (Place Reader groupSpans)
open Regex.Reader (Enclosed)

/- The source of a segment with all that follows, and all that follows it. -/
def placeAt (segments : List Segment) (position : Nat) : Place :=
  match segments.drop position with
  | [] => ⟨tailSource, tailSource⟩
  | s :: rest =>
    let behind := rest.flatMap ('/' :: ·.source) ++ tailSource
    ⟨s.source ++ behind, behind⟩

/- Where a segment stands in the source. -/
theorem placeStands {segments : List Segment} {position : Nat} {s : Segment}
    (found : segments[position]? = some s) :
    assemble segments = '^' :: ((segments.take position).flatMap ('/' :: ·.source) ++
        '/' :: (placeAt segments position).opening) ∧
      (placeAt segments position).opening = s.source ++ (placeAt segments position).behind := by
  obtain ⟨inside, rfl⟩ := List.getElem?_eq_some_iff.mp found
  have filled : segments.map Segment.source ≠ [] := by
    rw [Ne, List.map_eq_nil_iff]
    rintro rfl
    exact Nat.not_lt_zero _ inside
  have joined : assemble segments =
      '^' :: (segments.flatMap ('/' :: ·.source) ++ tailSource) := by
    rw [assemble, ← List.cons_append, Text.consIntercalate filled, List.flatMap_map]
  have cut : segments = segments.take position ++
      segments[position] :: segments.drop (position + 1) := by
    rw [← List.drop_eq_getElem_cons inside, List.take_append_drop]
  have whole : segments.flatMap ('/' :: ·.source) =
      (segments.take position).flatMap ('/' :: ·.source) ++ ('/' :: segments[position].source ++
        (segments.drop (position + 1)).flatMap ('/' :: ·.source)) := by
    conv_lhs => rw [cut, List.flatMap_append, List.flatMap_cons]
  rw [joined, placeAt, List.drop_eq_getElem_cons inside, whole]
  simp only [List.append_assoc, List.cons_append, and_self]

/- The group with the number of a slug is the segment of the slug. -/
def OwnGroup (segments : List Segment) (i position : Nat) : Prop :=
  ∃ span ∈ groupSpans (assemble segments), span.index = i + 1 ∧
    span.place = placeAt segments position

/- A slug is numbered by the slugs in front of it. -/
theorem slugPlaced {segments : List Segment} {i position : Nat}
    (listed : ((namedSegments segments).map Prod.snd)[i]? = some position) :
    ∃ front s behind, segments = front ++ s :: behind ∧ front.length = position ∧
      (namedSegments front).length = i ∧ s.name?.isSome = true := by
  rw [List.getElem?_map] at listed
  obtain ⟨⟨name, place⟩, found, rfl⟩ := Option.map_eq_some_iff.mp listed
  obtain ⟨inside, here⟩ := List.getElem?_eq_some_iff.mp found
  have cut : namedSegments segments = (namedSegments segments).take i ++
      (name, place) :: (namedSegments segments).drop (i + 1) := by
    rw [← here, ← List.drop_eq_getElem_cons inside, List.take_append_drop]
  obtain ⟨first, others, whole, before, after⟩ := List.filterMap_eq_append_iff.mp cut
  obtain ⟨plain, x, rest, rfl, unnamed, named, _⟩ := List.filterMap_eq_cons_iff.mp after
  rw [← List.append_assoc] at whole
  obtain ⟨front, behind, rfl, fronts, behinds⟩ := List.zipIdx_eq_append_iff.mp whole
  obtain ⟨s, more, rfl, rfl, _⟩ := List.zipIdx_eq_cons_iff.mp behinds.symm
  obtain ⟨text, given, same⟩ := Option.map_eq_some_iff.mp named
  cases same
  refine ⟨front, s, more, rfl, (Nat.zero_add _).symm, ?_, by rw [given]; rfl⟩
  rw [namedSegments, ← fronts, List.filterMap_append, before, List.filterMap_eq_nil_iff.mpr unnamed,
    List.append_nil, List.length_take_of_le (Nat.le_of_lt inside)]

namespace Part

theorem namedSlug (p : Part) : p.segment.name?.isSome = p.isSlug := by
  cases p with
  | plain s =>
    cases s with
    | wildcard deep before after => cases deep <;> rfl
    | _ => rfl
  | slug braced name body => rfl

theorem namedTotal (parts : List Part) :
    (namedSegments (parts.map segment)).length = slugTotal parts := by
  have counted : ∀ segments : List Segment,
      (namedSegments segments).length = segments.countP (·.name?.isSome) := by
    intro segments
    conv_rhs => rw [← List.zipIdx_map_fst 0 segments, List.countP_map]
    rw [namedSegments, List.length_filterMap_eq_countP]
    simp only [Option.isSome_map, Function.comp_def]
  rw [counted]
  induction parts with
  | nil => rfl
  | cons p rest ih => rw [List.map_cons, List.countP_cons, ih, namedSlug, slugTotal, slugs, Nat.add_comm]

theorem slugEnclosed {p : Part} (slug : p.isSlug = true) :
    ∃ name text, p.segment = .slug name text ∧ Enclosed text := by
  cases p with
  | plain s =>
    cases s with
    | slug spelling name =>
      exact ⟨name, Segment.defaultBody, rfl, Reader.bareEnclosed defaultRead rfl⟩
    | literal text => cases slug
    | wildcard deep before after => cases slug
  | slug braced name body =>
    exact ⟨name, body.source, rfl, Reader.bareEnclosed body.read body.bare⟩

/- The groups opened in front of a segment are those of the slugs there, and all are closed. -/
theorem readsBefore {parts : List Part} (rest : List Char) (legal : ∀ q ∈ parts, q.Legal) :
    ∃ r : Reader, ({} : Reader).Reads
        ('^' :: (parts.flatMap (fun q => '/' :: q.segment.source) ++ '/' :: rest)) r rest ∧
      r.verbose = false ∧ r.frames = [] ∧ r.captures = slugTotal parts := by
  have path := readsFront legal (show ('/' :: rest).head? ≠ some '?' by simp)
  have slash := Reader.readsTrans path (Reader.readsChar (c := '/') (by decide) rfl)
  exact ⟨_, slash, rfl, rfl, Nat.zero_add _⟩

/- The body of the slug may have groups of its own, which come behind the one of the slug, and
nothing is asked of the segments behind it. -/
theorem ownGroup {front : List Part} {text : List Char} (name : List Char) (behind : List Segment)
    (legal : ∀ q ∈ front, q.Legal) (enclosed : Enclosed text) :
    OwnGroup (front.map segment ++ .slug name text :: behind) (slugTotal front) front.length := by
  have found : (front.map segment ++ .slug name text :: behind)[front.length]? =
      some (.slug name text) := by simp
  have taken : (front.map segment ++ .slug name text :: behind).take front.length =
      front.map segment := List.take_left' (List.length_map _)
  obtain ⟨stands, opening⟩ := placeStands found
  rw [taken, List.flatMap_map] at stands
  unfold OwnGroup
  generalize placeAt (front.map segment ++ .slug name text :: behind) front.length = place at *
  rw [Segment.source, List.cons_append, List.append_assoc, List.singleton_append] at opening
  obtain ⟨r, before, silent, outer, count⟩ := readsBefore place.opening legal
  obtain ⟨left, enough, listed⟩ := Reader.spansOutside before rfl outer (Nat.le_refl _)
  rw [opening] at enough listed
  have level : ([] : List Regex.Chars).length = r.frames.length := by rw [outer]; rfl
  obtain ⟨body, here⟩ := Reader.enclosedListed place.behind enclosed silent level enough
  have own := listed here
  rw [← opening] at own
  rw [groupSpans, stands]
  exact ⟨_, own, congrArg (· + 1) count, rfl⟩

theorem ownGroups {parts : List Part} (legal : ∀ q ∈ parts, q.Legal) {i position : Nat}
    (listed : ((namedSegments (parts.map segment)).map Prod.snd)[i]? = some position) :
    i < slugTotal parts ∧ OwnGroup (parts.map segment) i position := by
  obtain ⟨inside, _⟩ := List.getElem?_eq_some_iff.mp listed
  rw [List.length_map, namedTotal] at inside
  obtain ⟨before, s, behind, whole, rfl, rfl, named⟩ := slugPlaced listed
  obtain ⟨front, rest, rfl, rfl, others⟩ := List.map_eq_append_iff.mp whole
  obtain ⟨p, after, rfl, rfl, rfl⟩ := List.map_eq_cons_iff.mp others
  rw [namedSlug] at named
  obtain ⟨name, text, same, enclosed⟩ := slugEnclosed named
  rw [List.map_append, List.map_cons, same, namedTotal, List.length_map]
  rw [namedTotal] at inside
  have earlier : ∀ q ∈ front, q.Legal := fun q member => legal q (List.mem_append_left _ member)
  exact ⟨inside, ownGroup name (after.map segment) earlier enclosed⟩

end Part
end Signpost.Route
