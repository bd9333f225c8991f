import Signpost.Proofs.Route.PartSource
import Signpost.Proofs.Route.PlainMatch

/-! The paths of a template with bodies, and the values its slugs capture from them. A match
cuts the path into a piece for each part, and the piece of a slug with a body is a match of
the body alone. -/
namespace Signpost.Route
open Regex (Node Point Slots saved? savedAppend savedMissing)
open Regex.Node (MatchAll Takes)
open PlainSegment (IsTail isTailExact joined joinedCons joinedPath joinedPrefix groupValue)
open List (Forall₂)

namespace Part

/- What the match of a part saves that takes the piece from the position on. -/
def marks (index pos : Nat) (piece : List Char) (p : Part) : Slots :=
  if p.isSlug then [(2 * index + 1, pos + piece.length), (2 * index, pos)] else []

def pathMarks (index pos : Nat) : List Part → List (List Char) → Slots
  | p :: parts, w :: pieces =>
    pathMarks (index + p.slugs) (pos + 1 + w.length) parts pieces ++ p.marks index (pos + 1) w
  | _, _ => []

section
variable {text : Array Char} {s t : Point}

theorem matchPart {p : Part} {index : Nat} : MatchAll text (p.nodes index) s t ↔
    ∃ w, p.Piece w ∧ w <+: text.toList.drop s.pos ∧
      t = ⟨s.pos + w.length, p.marks index s.pos w ++ s.slots⟩ := by
  cases p with
  | plain segment => exact PlainSegment.matchSegment
  | slug braced name body =>
    have bare := body.worked.2
    simp only [nodes, Node.matchAllSingle, matchGroup, Node.matchSpelled bare, Takes, Piece,
      Regex.matchesWholeSpelled bare, marks, isSlug, if_true]
    constructor
    · intro given
      obtain ⟨u, ⟨w, spells, taken, rfl⟩, rfl⟩ := given
      exact ⟨w, spells, taken, rfl⟩
    · intro given
      obtain ⟨w, spells, taken, rfl⟩ := given
      exact ⟨_, ⟨w, spells, taken, rfl⟩, rfl⟩

theorem joinedEnd {p : Part} {rest : List Part} {index : Nat} {w : List Char}
    {pieces : List (List Char)} :
    (⟨s.pos + 1 + w.length + (joined pieces).length,
      pathMarks (index + p.slugs) (s.pos + 1 + w.length) rest pieces ++
        (p.marks index (s.pos + 1) w ++ s.slots)⟩ : Point) =
      ⟨s.pos + (joined (w :: pieces)).length,
        pathMarks index s.pos (p :: rest) (w :: pieces) ++ s.slots⟩ := by
  have length : (joined (w :: pieces)).length = 1 + (w.length + (joined pieces).length) := by
    rw [joinedCons, List.length_append, List.length_append]
    rfl
  rw [pathMarks, List.append_assoc, length]
  congr 1
  omega

theorem matchPath {parts : List Part} {index : Nat} : MatchAll text (pathNodes index parts) s t ↔
    ∃ pieces, Forall₂ Piece parts pieces ∧ joined pieces <+: text.toList.drop s.pos ∧
      t = ⟨s.pos + (joined pieces).length, pathMarks index s.pos parts pieces ++ s.slots⟩ := by
  induction parts generalizing index s with
  | nil =>
    simp only [List.forall₂_nil_left_iff, exists_eq_left, pathNodes, MatchAll, joined, pathMarks]
    simp
  | cons p rest ih =>
    have slash : ∀ {u : Point}, (Node.set (.single '/')).Match text s u ↔ Takes text ['/'] s u := by
      intro u
      simp only [Node.takesSet, CharSet.containsSingle, beq_iff_eq, exists_eq_left]
    simp only [pathNodes, MatchAll, slash, Node.matchAllAppend, matchPart, ih,
      List.forall₂_cons_left_iff]
    constructor
    · intro given
      obtain ⟨_, ⟨first, rfl⟩, _, ⟨w, fits, taken, rfl⟩, pieces, others, more, rfl⟩ := given
      refine ⟨w :: pieces, ⟨w, pieces, fits, others, rfl⟩, ?_, joinedEnd⟩
      exact joinedPrefix.mpr ⟨first, taken, more⟩
    · intro given
      obtain ⟨_, ⟨w, pieces, fits, others, rfl⟩, taken, rfl⟩ := given
      obtain ⟨first, taken, more⟩ := joinedPrefix.mp taken
      exact ⟨_, ⟨first, rfl⟩, _, ⟨w, fits, taken, rfl⟩, pieces, others, more, joinedEnd.symm⟩

end

theorem pathMarksAbove (parts : List Part) (pieces : List (List Char)) (index pos : Nat) :
    ∀ m ∈ pathMarks index pos parts pieces, 2 * index ≤ m.1 := by
  induction parts generalizing pieces index pos with
  | nil => exact fun m member => by cases pieces <;> cases member
  | cons p rest ih =>
    cases pieces with
    | nil => exact fun m member => by cases member
    | cons w pieces =>
      intro m member
      rcases List.mem_append.mp member with member | member
      · have above := ih _ _ _ m member
        omega
      · unfold marks at member
        split at member
        · simp only [List.mem_cons, List.not_mem_nil, or_false] at member
          rcases member with rfl | rfl
          · exact Nat.le_succ _
          · exact Nat.le_refl _
        · cases member

theorem valuesLength {parts : List Part} {pieces : List (List Char)}
    (fit : Forall₂ Piece parts pieces) : (values parts pieces).length = slugTotal parts := by
  induction fit with
  | nil => rfl
  | @cons p w parts pieces _ _ ih =>
    rw [values, slugTotal, slugs, ← ih]
    split
    · rw [List.length_cons, Nat.add_comm]
    · rw [Nat.zero_add]

/- The places of a slug's piece are saved in the slots of the slug's number. -/
theorem savedValue {parts : List Part} {pieces : List (List Char)} {text : List Char}
    (fit : Forall₂ Piece parts pieces) (index : Nat) {pos n : Nat} {w : List Char}
    (stands : joined pieces <+: text.drop pos) (found : (values parts pieces)[n]? = some w) :
    ∃ lo, saved? (pathMarks index pos parts pieces) (2 * (index + n)) = some lo ∧
      saved? (pathMarks index pos parts pieces) (2 * (index + n) + 1) = some (lo + w.length) ∧
      w <+: text.drop lo := by
  induction fit generalizing index pos n with
  | nil => cases found
  | @cons p w' parts pieces _ _ ih =>
    obtain ⟨_, here, there⟩ := joinedPrefix.mp stands
    simp only [values] at found
    cases slug : p.isSlug with
    | false =>
      rw [slug] at found
      obtain ⟨lo, first, second, piece⟩ := ih index there found
      refine ⟨lo, ?_, ?_, piece⟩ <;>
        simpa [pathMarks, slugs, marks, slug]
    | true =>
      rw [slug] at found
      have number : p.slugs = 1 := by simp [slugs, slug]
      rw [pathMarks, number, marks, slug, if_pos rfl]
      have above := pathMarksAbove parts pieces (index + 1) (pos + 1 + w'.length)
      cases n with
      | zero =>
        have none : ∀ slot, slot < 2 * (index + 1) →
            saved? (pathMarks (index + 1) (pos + 1 + w'.length) parts pieces) slot = none := by
          intro slot below
          refine savedMissing fun m member same => ?_
          have := above m member
          omega
        cases Option.some.inj found
        refine ⟨pos + 1, ?_, ?_, here⟩
        · rw [savedAppend, none _ (by omega)]
          simp [saved?]
        · rw [savedAppend, none _ (by omega)]
          simp [saved?]
      | succ n =>
        obtain ⟨lo, first, second, piece⟩ := ih (index + 1) there found
        have place : index + (n + 1) = index + 1 + n := by omega
        rw [place, savedAppend, savedAppend, first, second]
        exact ⟨lo, rfl, rfl, piece⟩

theorem piecesFilled {parts : List Part} {pieces : List (List Char)} (filled : parts ≠ [])
    (fit : Forall₂ Piece parts pieces) : pieces ≠ [] := by
  intro same
  subst same
  cases fit
  exact filled rfl

/- A match of a template begins at the start and cuts the path. The slots of the slugs are
saved before those of the tail. -/
theorem sourceCut {parts : List Part} {path : List Char} {start : Nat} {t : Point}
    (filled : parts ≠ []) (inside : start ≤ path.length)
    (taken : (Node.chain (sourceNodes parts)).Match path.toArray ⟨start, []⟩ t) :
    ∃ pieces, Cut parts path pieces ∧ joined pieces <+: path ∧
      ∃ later, (∀ m ∈ later, 2 * (slugTotal parts + 1) ≤ m.1) ∧
        t.slots = later ++ pathMarks 1 0 parts pieces := by
  obtain ⟨_, ⟨opens, rfl⟩, rest⟩ := Node.chainMatch.mp taken
  have zero : start = 0 := Node.textStartHolds (by simpa using inside) opens
  subst zero
  obtain ⟨_, partwise, tail⟩ := Node.matchAllAppend.mp rest
  obtain ⟨pieces, fit, stands, rfl⟩ := matchPath.mp partwise
  simp only [List.drop_zero, Nat.zero_add] at stands tail
  have bound := stands.length_le
  obtain ⟨query, fragment, asks, names, whole, rfl⟩ := (matchTail _ (by simpa using bound)).mp tail
  obtain ⟨behind, same⟩ := stands
  simp only at same whole
  rw [← same, List.drop_left] at whole
  refine ⟨pieces, ⟨fit, query ++ fragment, ?_, ?_⟩, ⟨behind, same⟩, ?_⟩
  · exact isTailExact.mpr ⟨query, fragment, asks, names, rfl⟩
  · rw [← joinedPath (piecesFilled filled fit), ← whole, same]
  · refine ⟨tailMarks (slugTotal parts + 1 + 1) ((joined pieces).length + query.length) fragment ++
      tailMarks (slugTotal parts + 1) (joined pieces).length query, fun m member => ?_, ?_⟩
    · rcases List.mem_append.mp member with member | member
      · have above := tailMarksAbove m member
        omega
      · exact tailMarksAbove m member
    · simp

theorem sourceMatches {parts : List Part} {path : List Char} {pieces : List (List Char)}
    (filled : parts ≠ []) (cut : Cut parts path pieces) :
    ∃ t, (Node.chain (sourceNodes parts)).Match path.toArray ⟨0, []⟩ t := by
  obtain ⟨fit, tail, ends, same⟩ := cut
  rw [← joinedPath (piecesFilled filled fit)] at same
  obtain ⟨query, fragment, asks, names, rfl⟩ := isTailExact.mp ends
  have stands : joined pieces <+: path.toArray.toList.drop 0 := ⟨_, same.symm⟩
  have partwise : MatchAll path.toArray (pathNodes 1 parts) ⟨0, []⟩
      ⟨0 + (joined pieces).length, pathMarks 1 0 parts pieces ++ []⟩ :=
    matchPath.mpr ⟨pieces, fit, stands, rfl⟩
  have inside : 0 + (joined pieces).length ≤ path.toArray.size := by
    simpa using stands.length_le
  have last := (matchTail (slugTotal parts + 1)
    (s := ⟨0 + (joined pieces).length, pathMarks 1 0 parts pieces ++ []⟩) inside).mpr
      ⟨query, fragment, asks, names, by simp [same], rfl⟩
  exact ⟨_, Node.chainMatch.mpr ⟨_, ⟨rfl, rfl⟩, Node.matchAllAppend.mpr ⟨_, partwise, last⟩⟩⟩

/- The groups but those of the tail hold the pieces of the slugs. -/
theorem capturedValues {parts : List Part} {path : List Char} {pieces : List (List Char)}
    {later : Slots} (fit : Forall₂ Piece parts pieces) (stands : joined pieces <+: path)
    (above : ∀ m ∈ later, 2 * (slugTotal parts + 1) ≤ m.1) :
    (List.range (slugTotal parts)).map (fun i => String.ofList (Regex.groupText path
      (Regex.saves (later ++ pathMarks 1 0 parts pieces) (2 * slugTotal parts + 2)) (i + 1))) =
      (values parts pieces).map String.ofList := by
  have length := valuesLength fit
  refine List.ext_getElem (by simp [length]) fun i inside _ => ?_
  rw [List.length_map, List.length_range] at inside
  have found : (values parts pieces)[i]? = some (values parts pieces)[i] :=
    List.getElem?_eq_getElem (by omega)
  obtain ⟨lo, first, second, piece⟩ := savedValue fit 1 (show _ <+: path.drop 0 from stands) found
  have none : ∀ slot, slot < 2 * (slugTotal parts + 1) → saved? later slot = none := by
    intro slot below
    refine savedMissing fun m member same => ?_
    have := above m member
    omega
  have number : 2 * (i + 1) = 2 * (1 + i) := by omega
  rw [List.getElem_map, List.getElem_map, List.getElem_range]
  congr 1
  refine groupValue inside ?_ ?_ piece
  · rw [savedAppend, none _ (by omega), number, first]
    rfl
  · rw [savedAppend, none _ (by omega), number, second]
    rfl

section
variable {parts : List Part} {p : PathPattern}

theorem matchesCut (filled : parts ≠ []) (legal : ∀ q ∈ parts, q.Legal)
    (compiled : PathPattern.compile (template parts) = .ok p) (path : String) :
    p.isMatch path = true ↔ ∃ pieces, Cut parts path.toList pieces := by
  rw [PathPattern.isMatch, Regex.isMatchExact, compiledNode filled legal compiled]
  constructor
  · intro given
    obtain ⟨start, t, inside, taken⟩ := given
    obtain ⟨pieces, cut, _⟩ := sourceCut filled inside taken
    exact ⟨pieces, cut⟩
  · intro given
    obtain ⟨pieces, cut⟩ := given
    obtain ⟨t, taken⟩ := sourceMatches filled cut
    exact ⟨0, t, Nat.zero_le _, taken⟩

theorem capturesCut (filled : parts ≠ []) (legal : ∀ q ∈ parts, q.Legal)
    (compiled : PathPattern.compile (template parts) = .ok p) {path : String}
    {captured : List String} (taken : p.captures? path = some captured) :
    ∃ pieces, Cut parts path.toList pieces ∧
      captured = (values parts pieces).map String.ofList := by
  have node := compiledNode filled legal compiled
  obtain ⟨t, found, rfl⟩ := Option.map_eq_some_iff.mp taken
  obtain ⟨inside, taken⟩ := Regex.findSound found
  rw [node] at taken
  obtain ⟨pieces, cut, stands, later, above, slots⟩ := sourceCut filled inside taken
  refine ⟨pieces, cut, ?_⟩
  simp only at slots
  simp only [valuesCounted filled legal compiled, slots]
  exact capturedValues cut.fit stands above

/- A template with bodies that is compiled matches exactly the paths that can be cut into
pieces for its parts, and captures the slugs of one cut. -/
theorem bodiesCompose (filled : parts ≠ []) (legal : ∀ q ∈ parts, q.Legal)
    (compiled : PathPattern.compile (template parts) = .ok p) (path : String) :
    (p.isMatch path = true ↔ ∃ pieces, Cut parts path.toList pieces) ∧
      ∀ captured, p.captures? path = some captured → ∃ pieces, Cut parts path.toList pieces ∧
        captured = (values parts pieces).map String.ofList :=
  ⟨matchesCut filled legal compiled path, fun _ taken => capturesCut filled legal compiled taken⟩

end

theorem bodiesPages : ∃ (lang page : Body) (p : PathPattern),
    lang.source = "en|de".toList ∧ page.source = "(?:[0-9]\x7b2\x7d|x)+?".toList ∧
      PathPattern.compile "/:lang(en|de)/\x7bpage:(?:[0-9]\x7b2\x7d|x)+?\x7d/*" = .ok p ∧
      p.isMatch "/de/x12/a?b" = true ∧
      ∃ pieces, Cut [.slug false "lang".toList lang, .slug true "page".toList page,
          .plain (.wildcard false [] [])] "/de/x12/a?b".toList pieces ∧
        ["de", "x12"] = (values [.slug false "lang".toList lang, .slug true "page".toList page,
          .plain (.wildcard false [] [])] pieces).map String.ofList := by
  let lang : Body := ⟨"en|de".toList, _, _, rfl, rfl, rfl⟩
  let page : Body := ⟨"(?:[0-9]\x7b2\x7d|x)+?".toList, _, _, rfl, rfl, rfl⟩
  obtain ⟨p, compiled, hit, taken⟩ : ∃ p,
      PathPattern.compile "/:lang(en|de)/\x7bpage:(?:[0-9]\x7b2\x7d|x)+?\x7d/*" = .ok p ∧
        p.isMatch "/de/x12/a?b" = true ∧ p.captures? "/de/x12/a?b" = some ["de", "x12"] := by
    refine ⟨_, rfl, ?_, ?_⟩
    · decide +kernel
    · decide +kernel
  have legal : ∀ q ∈ [Part.slug false "lang".toList lang, .slug true "page".toList page,
      .plain (.wildcard false [] [])], q.Legal := by
    decide
  refine ⟨lang, page, p, rfl, rfl, compiled, hit, ?_⟩
  exact (bodiesCompose (List.cons_ne_nil _ _) legal compiled "/de/x12/a?b").2 _ taken

end Part
end Signpost.Route
