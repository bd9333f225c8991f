import Mathlib.Data.List.Forall2
import Mathlib.Data.List.Sort
import Signpost.Proofs.Route.Spelling
import Signpost.Route.PathPattern

/-! What compiling a template comes to. The leading slash is asked for first, then each segment
from the left, and the expression as a whole last. -/
namespace Signpost.Route
open List (Forall₂)
open Segment (Defect IsSlug Spells StandsFor)

/- The leftmost of the pieces that are defective, with its fault. -/
def FirstDefect (pieces : List (List Char)) (fault : SegmentFault) : Prop :=
  ∃ before piece after, pieces = before ++ piece :: after ∧
    (∀ p ∈ before, ∀ other, ¬ Defect p other) ∧ Defect piece fault

/- The slugs among the pieces, in their order. -/
structure SlugsListed (pieces : List (List Char)) (names : List String)
    (positions : List Nat) : Prop where
  aligned : names.length = positions.length
  increasing : positions.Pairwise (· < ·)
  inside : ∀ i ∈ positions, i < pieces.length
  exactly : ∀ i, i ∈ positions ↔ ∃ piece, pieces[i]? = some piece ∧ IsSlug piece
  named : ∀ (k i : Nat), positions[k]? = some i → ∃ piece name body, pieces[i]? = some piece ∧
    Spells piece name body ∧ names[k]? = some (String.ofList name)

inductive Compilation (template : String) : Except PatternError PathPattern → Prop
  | missingSlash (bare : template.toList.head? ≠ some '/') :
      Compilation template (.error (.missingSlash template))
  | defective {rest fault} (slash : template.toList = '/' :: rest)
      (first : FirstDefect (Text.fields '/' rest) fault) :
      Compilation template (.error (fault.inPath template))
  | invalidRegex {rest segments fault} (slash : template.toList = '/' :: rest)
      (stand : Forall₂ StandsFor (Text.fields '/' rest) segments)
      (refused : Regex.compile (String.ofList (assemble segments)) = .error fault) :
      Compilation template (.error (.invalidRegex template fault))
  | compiled {rest segments regex names positions} (slash : template.toList = '/' :: rest)
      (stand : Forall₂ StandsFor (Text.fields '/' rest) segments)
      (accepted : Regex.compile (String.ofList (assemble segments)) = .ok regex)
      (listed : SlugsListed (Text.fields '/' rest) names positions) :
      Compilation template (.ok ⟨template, regex, names, positions⟩)

section
variable {pieces : List (List Char)} {segments : List Segment}

theorem standRead (stand : Forall₂ StandsFor pieces segments) :
    pieces.mapM Segment.read = .ok segments := by
  induction stand with
  | nil => rfl
  | cons stands _ ih =>
    rw [List.mapM_cons, Segment.standsExactly.mpr stands, ih]
    rfl

theorem firstDefectRead {fault : SegmentFault} (first : FirstDefect pieces fault) :
    pieces.mapM Segment.read = .error fault := by
  obtain ⟨before, piece, after, rfl, sound, defect⟩ := first
  induction before with
  | nil =>
    rw [List.nil_append, List.mapM_cons, Segment.defectExactly.mpr defect]
    rfl
  | cons p before ih =>
    obtain ⟨first, others⟩ := List.forall_mem_cons.mp sound
    cases read : Segment.read p with
    | ok s =>
      rw [List.cons_append, List.mapM_cons, read, ih others]
      rfl
    | error other => exact absurd (Segment.defectExactly.mp read) (first other)

theorem piecesDecided (pieces : List (List Char)) :
    (∃ segments, Forall₂ StandsFor pieces segments) ∨ ∃ fault, FirstDefect pieces fault := by
  induction pieces with
  | nil => exact .inl ⟨[], .nil⟩
  | cons piece rest ih =>
    cases read : Segment.read piece with
    | ok s =>
      have sane : ∀ fault, ¬ Defect piece fault := by
        intro fault defect
        cases read.symm.trans (Segment.defectExactly.mpr defect)
      rcases ih with ⟨segments, stand⟩ | ⟨fault, before, other, after, rfl, sound, defect⟩
      · exact .inl ⟨s :: segments, .cons (Segment.standsExactly.mp read) stand⟩
      · exact .inr ⟨fault, piece :: before, other, after, rfl,
          List.forall_mem_cons.mpr ⟨sane, sound⟩, defect⟩
    | error fault =>
      exact .inr ⟨fault, [], piece, rest, rfl, (fun _ member => nomatch member),
        Segment.defectExactly.mp read⟩

theorem standsAt (stand : Forall₂ StandsFor pieces segments) (i : Nat) :
    (pieces[i]? = none ∧ segments[i]? = none) ∨
      ∃ piece s, pieces[i]? = some piece ∧ segments[i]? = some s ∧ StandsFor piece s := by
  induction stand generalizing i with
  | nil => exact .inl ⟨rfl, rfl⟩
  | @cons piece s rest others stands _ ih =>
    cases i with
    | zero => exact .inr ⟨piece, s, rfl, rfl, stands⟩
    | succ i => exact ih i

theorem standsNamed {piece : List Char} {s : Segment} (stands : StandsFor piece s)
    (name : List Char) : s.name? = some name ↔ ∃ body, Spells piece name body := by
  have unnamed (plain : ¬ IsSlug piece) : none = some name ↔ ∃ body, Spells piece name body := by
    refine ⟨(fun impossible => nomatch impossible), fun given => ?_⟩
    obtain ⟨body, spelled⟩ := given
    exact absurd (Segment.spelledExactly.mpr ⟨name, body, spelled⟩) plain
  cases stands with
  | slug spelled member legal =>
    constructor
    · intro same
      cases same
      exact ⟨_, spelled⟩
    · intro given
      obtain ⟨body, other⟩ := given
      cases (Segment.slugSpelled spelled).symm.trans (Segment.slugSpelled other)
      rfl
  | literal plain free => exact unnamed plain
  | single plain starred => exact unnamed plain
  | double plain starred => exact unnamed plain

theorem namedMember (stand : Forall₂ StandsFor pieces segments) {name : String} {i : Nat} :
    (name, i) ∈ namedSegments segments ↔ ∃ piece n body, pieces[i]? = some piece ∧
      Spells piece n body ∧ String.ofList n = name := by
  simp only [namedSegments, List.mem_filterMap, Option.map_eq_some_iff, Prod.mk.injEq,
    Prod.exists, List.mem_zipIdx_iff_getElem?]
  constructor
  · intro given
    obtain ⟨s, place, there, n, named, same, rfl⟩ := given
    rcases standsAt stand place with ⟨_, none⟩ | ⟨piece, s', here, there', stands⟩
    · cases none.symm.trans there
    · cases there.symm.trans there'
      obtain ⟨body, spelled⟩ := (standsNamed stands n).mp named
      exact ⟨piece, n, body, here, spelled, same⟩
  · intro given
    obtain ⟨piece, n, body, here, spelled, same⟩ := given
    rcases standsAt stand i with ⟨none, _⟩ | ⟨piece', s, here', there, stands⟩
    · cases none.symm.trans here
    · cases here.symm.trans here'
      exact ⟨s, i, there, n, (standsNamed stands n).mpr ⟨body, spelled⟩, same, rfl⟩

theorem namedIncreasing (segments : List Segment) :
    ((namedSegments segments).map Prod.snd).Pairwise (· < ·) := by
  have places : segments.zipIdx.Pairwise fun a b => a.2 < b.2 := by
    rw [← List.pairwise_map, List.zipIdx_map_snd]
    exact List.pairwise_lt_range'
  rw [List.pairwise_map, namedSegments]
  refine places.filterMap _ fun a b before one first other second => ?_
  obtain ⟨_, _, rfl⟩ := Option.map_eq_some_iff.mp first
  obtain ⟨_, _, rfl⟩ := Option.map_eq_some_iff.mp second
  exact before

theorem namedListed (stand : Forall₂ StandsFor pieces segments) :
    SlugsListed pieces ((namedSegments segments).map Prod.fst)
      ((namedSegments segments).map Prod.snd) := by
  have exactly : ∀ i, i ∈ (namedSegments segments).map Prod.snd ↔
      ∃ piece, pieces[i]? = some piece ∧ IsSlug piece := by
    intro i
    simp only [List.mem_map, Prod.exists, exists_eq_right, namedMember stand]
    constructor
    · intro given
      obtain ⟨_, piece, n, body, here, spelled, _⟩ := given
      exact ⟨piece, here, Segment.spelledExactly.mpr ⟨n, body, spelled⟩⟩
    · intro given
      obtain ⟨piece, here, slug⟩ := given
      obtain ⟨n, body, spelled⟩ := Segment.spelledExactly.mp slug
      exact ⟨_, piece, n, body, here, spelled, rfl⟩
  refine ⟨by simp, namedIncreasing segments, ?_, exactly, ?_⟩
  · intro i member
    obtain ⟨piece, here, _⟩ := (exactly i).mp member
    exact (List.getElem?_eq_some_iff.mp here).1
  · intro k i placed
    rw [List.getElem?_map] at placed
    obtain ⟨⟨name, place⟩, here, rfl⟩ := Option.map_eq_some_iff.mp placed
    obtain ⟨piece, n, body, there, spelled, rfl⟩ :=
      (namedMember stand).mp (List.mem_of_getElem? here)
    refine ⟨piece, n, body, there, spelled, ?_⟩
    rw [List.getElem?_map, here]
    rfl

theorem listedUnique {names names' : List String} {positions positions' : List Nat}
    (one : SlugsListed pieces names positions) (second : SlugsListed pieces names' positions') :
    names = names' ∧ positions = positions' := by
  have same : positions = positions' := one.increasing.eq_of_mem_iff second.increasing fun i =>
    (one.exactly i).trans (second.exactly i).symm
  subst same
  refine ⟨List.ext_getElem? fun k => ?_, rfl⟩
  cases placed : positions[k]? with
  | none =>
    have beyond := List.getElem?_eq_none_iff.mp placed
    rw [List.getElem?_eq_none (one.aligned ▸ beyond),
      List.getElem?_eq_none (second.aligned ▸ beyond)]
  | some i =>
    obtain ⟨piece, n, body, here, spelled, named⟩ := one.named k i placed
    obtain ⟨piece', n', body', here', spelled', named'⟩ := second.named k i placed
    cases here.symm.trans here'
    cases (Segment.slugSpelled spelled).symm.trans (Segment.slugSpelled spelled')
    rw [named, named']

end

namespace PathPattern

theorem compileBare {template : String} (bare : template.toList.head? ≠ some '/') :
    compile template = .error (.missingSlash template) := by
  unfold compile
  split
  next rest slash =>
    rw [slash] at bare
    exact absurd rfl bare
  · rfl

theorem compilationRead {template : String} {outcome : Except PatternError PathPattern}
    (compilation : Compilation template outcome) : compile template = outcome := by
  cases compilation with
  | missingSlash bare => exact compileBare bare
  | defective slash first =>
    simp only [compile, slash, readSegments, firstDefectRead first]
  | invalidRegex slash stand refused =>
    simp only [compile, slash, readSegments, standRead stand, refused]
  | compiled slash stand accepted listed =>
    obtain ⟨names, positions⟩ := listedUnique listed (namedListed stand)
    simp only [compile, slash, readSegments, standRead stand, accepted, names, positions]

theorem compilationDecided (template : String) : ∃ outcome, Compilation template outcome := by
  by_cases head : template.toList.head? = some '/'
  · obtain ⟨rest, slash⟩ := List.head?_eq_some_iff.mp head
    rcases piecesDecided (Text.fields '/' rest) with ⟨segments, stand⟩ | ⟨fault, first⟩
    · cases built : Regex.compile (String.ofList (assemble segments)) with
      | error fault => exact ⟨_, .invalidRegex slash stand built⟩
      | ok regex => exact ⟨_, .compiled slash stand built (namedListed stand)⟩
    · exact ⟨_, .defective slash first⟩
  · exact ⟨_, .missingSlash head⟩

theorem compileExactly (template : String) (outcome : Except PatternError PathPattern) :
    compile template = outcome ↔ Compilation template outcome := by
  refine ⟨fun done => ?_, compilationRead⟩
  obtain ⟨other, compilation⟩ := compilationDecided template
  rw [← done, compilationRead compilation]
  exact compilation

/- Of several defects the leftmost counts. -/
example : compile "/:_/a***" = .error (.illegalName "_" "/:_/a***") := rfl

end PathPattern
end Signpost.Route
