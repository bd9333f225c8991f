import Signpost.Proofs.Route.PartPath

/-! The paths of a plain template, and the values its slugs capture from them: those of a
template all parts of which are plain. -/
namespace Signpost.Route
open Regex (Expr Node Point Slots)
open List (Forall₂)

namespace PlainSegment

section
variable (segments : List PlainSegment)

theorem pathItemsPlain (index : Nat) :
    Part.pathItems index (segments.map .plain) = pathItems index segments := by
  induction segments generalizing index with
  | nil => rfl
  | cons s rest ih =>
    rw [List.map_cons, Part.pathItems, pathItems, ih]
    rfl

theorem pathNodesPlain (index : Nat) :
    Part.pathNodes index (segments.map .plain) = pathNodes index segments := by
  induction segments generalizing index with
  | nil => rfl
  | cons s rest ih =>
    rw [List.map_cons, Part.pathNodes, pathNodes, ih]
    rfl

theorem slugTotalPlain : Part.slugTotal (segments.map .plain) = slugTotal segments := by
  induction segments with
  | nil => rfl
  | cons s rest ih =>
    rw [List.map_cons, Part.slugTotal, slugTotal, ih]
    rfl

theorem sourceItemsPlain : Part.sourceItems (segments.map .plain) = sourceItems segments := by
  rw [Part.sourceItems, pathItemsPlain, slugTotalPlain, sourceItems]

theorem sourceNodesPlain : Part.sourceNodes (segments.map .plain) = sourceNodes segments := by
  rw [Part.sourceNodes, pathNodesPlain, slugTotalPlain, sourceNodes]

theorem pathMarksPlain (pieces : List (List Char)) (index pos : Nat) :
    Part.pathMarks index pos (segments.map .plain) pieces = pathMarks index pos segments pieces := by
  induction segments generalizing pieces index pos with
  | nil => cases pieces <;> rfl
  | cons s rest ih =>
    cases pieces with
    | nil => rfl
    | cons w pieces =>
      rw [List.map_cons, Part.pathMarks, pathMarks, ih]
      rfl

theorem valuesPlain (pieces : List (List Char)) :
    Part.values (segments.map .plain) pieces = values segments pieces := by
  induction segments generalizing pieces with
  | nil => cases pieces <;> rfl
  | cons s rest ih =>
    cases pieces with
    | nil => rfl
    | cons w pieces =>
      rw [List.map_cons, Part.values, values, ih]
      rfl

end

theorem partsFilled {segments : List PlainSegment} (filled : segments ≠ []) :
    segments.map Part.plain ≠ [] := by
  simpa using filled

theorem legalPlain {segments : List PlainSegment} (legal : ∀ s ∈ segments, s.Legal) :
    ∀ p ∈ segments.map Part.plain, p.Legal :=
  List.forall_mem_map.mpr fun s member => (legal s member).isPlain

theorem segmentsPlain (segments : List PlainSegment) :
    (segments.map Part.plain).map Part.segment = segments.map segment :=
  List.map_map

theorem fitPlain {segments : List PlainSegment} {pieces : List (List Char)} :
    Forall₂ Part.Piece (segments.map .plain) pieces ↔ Forall₂ Piece segments pieces :=
  List.forall₂_map_left_iff

theorem templatePlain (segments : List PlainSegment) :
    Part.template (segments.map .plain) = template segments :=
  congrArg (fun texts => String.ofList ('/' :: ['/'].intercalate texts)) List.map_map

theorem cutPlain {segments : List PlainSegment} {path : List Char} {pieces : List (List Char)} :
    Part.Cut (segments.map .plain) path pieces ↔ Cut segments path pieces :=
  ⟨fun cut => ⟨fitPlain.mp cut.fit, cut.tail⟩, fun cut => ⟨fitPlain.mpr cut.fit, cut.tail⟩⟩

theorem matchesPlain {segments : List PlainSegment} {p : PathPattern} (filled : segments ≠ [])
    (plain : ∀ s ∈ segments, s.IsPlain)
    (compiled : PathPattern.compile (template segments) = .ok p) (path : String) :
    p.isMatch path = true ↔ ∃ pieces, Cut segments path.toList pieces := by
  rw [← templatePlain] at compiled
  have cuts := Part.matchesCut (partsFilled filled) (List.forall_mem_map.mpr plain) compiled path
  simpa only [cutPlain] using cuts

theorem readSegmentsPlain {segments : List PlainSegment} (filled : segments ≠ [])
    (legal : ∀ s ∈ segments, s.Legal) :
    readSegments (['/'].intercalate (segments.map text)) = .ok (segments.map segment) := by
  have texts : (segments.map Part.plain).map Part.text = segments.map text := List.map_map
  have read := Part.readSegmentsParts (partsFilled filled) (legalPlain legal)
  rwa [texts, segmentsPlain] at read

theorem compilePlain {segments : List PlainSegment} (filled : segments ≠ [])
    (legal : ∀ s ∈ segments, s.Legal) :
    PathPattern.compile (template segments) =
      match Regex.compile (String.ofList (assemble (segments.map segment))) with
      | .error fault => .error (.invalidRegex (template segments) fault)
      | .ok regex =>
        let slugs := namedSegments (segments.map segment)
        .ok ⟨template segments, regex, slugs.map Prod.fst, slugs.map Prod.snd⟩ := by
  have read := readSegmentsPlain filled legal
  cases built : Regex.compile (String.ofList (assemble (segments.map segment))) <;>
    simp only [PathPattern.compile, template, String.toList_ofList, read, built]

theorem readSource {segments : List PlainSegment} (filled : segments ≠ [])
    (legal : ∀ s ∈ segments, s.Legal) :
    Expr.read (assemble (segments.map segment)) = .ok (Expr.chain (sourceItems segments)) := by
  have items : (({} : Regex.Reader).advance (sourceItems segments) (slugTotal segments + 2)).items =
      (sourceItems segments).reverse := List.append_nil _
  rw [← Expr.sequenceReverse]
  have reads := Part.readsSource (partsFilled filled) (legalPlain legal)
  rw [segmentsPlain, sourceItemsPlain, slugTotalPlain] at reads
  refine Regex.readExprOfReads reads rfl rfl items ?_
  rw [Expr.sequenceReverse]
  exact sourceItemsShallow segments

/- The regular expression of a template whose source has these nodes, if it is not too large. -/
theorem compileSource {segments : List PlainSegment} (filled : segments ≠ [])
    (legal : ∀ s ∈ segments, s.Legal) :
    Regex.compile (String.ofList (assemble (segments.map segment))) = .error .tooLarge ∨
      ∃ regex, Regex.compile (String.ofList (assemble (segments.map segment))) = .ok regex ∧
        regex.node = Node.chain (sourceNodes segments) := by
  have each := Part.sourceItemsWorked (segments.map .plain)
  rw [sourceItemsPlain, sourceNodesPlain] at each
  have worked : (Expr.chain (sourceItems segments)).node {} =
      .ok (Node.chain (sourceNodes segments), {}) := Expr.chainNode each
  simp only [Regex.compile, String.toList_ofList, readSource filled legal, bind, Except.bind, worked]
  split
  · exact .inr ⟨_, rfl, rfl⟩
  · exact .inl rfl

/- The two groups of the tail come after the slugs. -/
theorem sourceGroups (segments : List PlainSegment) :
    (Node.chain (sourceNodes segments)).lastGroup = slugTotal segments + tailGroups := by
  rw [← sourceNodesPlain, Part.sourceGroups, slugTotalPlain]

/- A match of a plain template begins at the start and cuts the path. The slots of the slugs
are saved before those of the tail. -/
theorem sourceCut {segments : List PlainSegment} {path : List Char} {start : Nat} {t : Point}
    (filled : segments ≠ []) (inside : start ≤ path.length)
    (taken : (Node.chain (sourceNodes segments)).Match path.toArray ⟨start, []⟩ t) :
    ∃ pieces, Cut segments path pieces ∧ joined pieces <+: path ∧
      ∃ later, (∀ m ∈ later, 2 * (slugTotal segments + 1) ≤ m.1) ∧
        t.slots = later ++ pathMarks 1 0 segments pieces := by
  rw [← sourceNodesPlain] at taken
  obtain ⟨pieces, ⟨fit, tail⟩, stands, marks⟩ := Part.sourceCut (partsFilled filled) inside taken
  rw [slugTotalPlain, pathMarksPlain] at marks
  exact ⟨pieces, ⟨fitPlain.mp fit, tail⟩, stands, marks⟩

theorem sourceMatches {segments : List PlainSegment} {path : List Char} {pieces : List (List Char)}
    (filled : segments ≠ []) (cut : Cut segments path pieces) :
    ∃ t, (Node.chain (sourceNodes segments)).Match path.toArray ⟨0, []⟩ t := by
  rw [← sourceNodesPlain]
  exact Part.sourceMatches (partsFilled filled) ⟨fitPlain.mpr cut.fit, cut.tail⟩

/- The groups but those of the tail hold the pieces of the slugs. -/
theorem capturedValues {segments : List PlainSegment} {path : List Char} {pieces : List (List Char)}
    {later : Slots} (fit : Forall₂ Piece segments pieces) (stands : joined pieces <+: path)
    (above : ∀ m ∈ later, 2 * (slugTotal segments + 1) ≤ m.1) :
    (List.range (slugTotal segments)).map (fun i => String.ofList (Regex.groupText path
      (Regex.saves (later ++ pathMarks 1 0 segments pieces) (2 * slugTotal segments + 2)) (i + 1))) =
      (values segments pieces).map String.ofList := by
  rw [← slugTotalPlain] at above
  have captured := Part.capturedValues (fitPlain.mpr fit) stands above
  rwa [slugTotalPlain, pathMarksPlain, valuesPlain] at captured

/- A plain template is compiled if its expression is not too large. Then it matches exactly
the paths that can be cut into pieces for its segments, and captures the slugs of one cut. -/
theorem plainExactly {segments : List PlainSegment} (filled : segments ≠ [])
    (legal : ∀ s ∈ segments, s.Legal)
    (fits : PathPattern.compile (template segments) ≠
      .error (.invalidRegex (template segments) .tooLarge)) :
    ∃ p, PathPattern.compile (template segments) = .ok p ∧ ∀ path : String,
      (p.isMatch path = true ↔ ∃ pieces, Cut segments path.toList pieces) ∧
      (p.isMatch path = true → ∃ pieces, Cut segments path.toList pieces ∧
        p.captures? path = some ((values segments pieces).map String.ofList)) := by
  have compiled := compilePlain filled legal
  rcases compileSource filled legal with large | ⟨regex, built, node⟩
  · rw [large] at compiled
    exact absurd compiled fits
  · rw [built] at compiled
    refine ⟨_, compiled, fun path => ⟨?_, ?_⟩⟩
    · rw [PathPattern.isMatch, Regex.isMatchExact, node]
      constructor
      · intro given
        obtain ⟨start, t, inside, taken⟩ := given
        obtain ⟨pieces, cut, _⟩ := sourceCut filled inside taken
        exact ⟨pieces, cut⟩
      · intro given
        obtain ⟨pieces, cut⟩ := given
        obtain ⟨t, taken⟩ := sourceMatches filled cut
        exact ⟨0, t, Nat.zero_le _, taken⟩
    · intro hit
      obtain ⟨t, found⟩ := Option.isSome_iff_exists.mp hit
      obtain ⟨inside, taken⟩ := Regex.findSound found
      rw [node] at taken
      obtain ⟨pieces, cut, stands, later, above, slots⟩ := sourceCut filled inside taken
      have count : regex.groupCount - tailGroups = slugTotal segments := by
        rw [Regex.groupCount, node, sourceGroups, Nat.add_sub_cancel]
      refine ⟨pieces, cut, ?_⟩
      simp only at slots
      simp only [PathPattern.captures?, found, Option.map_some, count, slots, Option.some.injEq]
      exact capturedValues cut.fit stands above

theorem plainUsers : ∃ p,
    PathPattern.compile (template [.literal "users".toList, .slug .colon "id".toList]) = .ok p ∧
      p.isMatch "/users/42?full" = true := by
  have compiles : ∃ p, PathPattern.compile
      (template [.literal "users".toList, .slug .colon "id".toList]) = .ok p := ⟨_, rfl⟩
  obtain ⟨p, compiled, exact⟩ := plainExactly
    (show [PlainSegment.literal "users".toList, .slug .colon "id".toList] ≠ [] by decide) (by decide) (by
      obtain ⟨p, compiled⟩ := compiles
      rw [compiled]
      exact fun same => by cases same)
  refine ⟨p, compiled, (exact "/users/42?full").1.mpr ⟨["users".toList, "42".toList], ?_, ?_⟩⟩
  · exact .cons rfl (.cons ⟨by decide, by simp⟩ .nil)
  · exact ⟨"?full".toList, .inr ⟨.inl rfl, by decide⟩, by decide⟩

end PlainSegment
end Signpost.Route
