import Mathlib.Data.List.Nodup
import Signpost.Proofs.Http.Slugs
import Signpost.Proofs.Route.Anchoring
import Signpost.Proofs.Route.OwnGroups
import Signpost.Route.Basic

/-! The values of slugs. They are the texts of the capture groups, all but the last two, in
the order of their numbers, and so belong to the slugs as long as the group of each slug has
the number of the slug. -/
namespace Signpost

namespace Regex
variable {source : String} {regex : Regex} {r : Reader}

/- The groups of a compiled expression are among those that were read, in the same order. -/
theorem compiledGroups (compiled : compile source = .ok regex)
    (read : ({} : Reader).readAll source.toList.length source.toList = .ok r) :
    (∀ index body, (index, body) ∈ regex.node.captured → ∃ e f f',
        (index, e) ∈ r.captured ∧ e.node f = .ok (body, f')) ∧
      (∀ index e e', (index, e) ∈ r.captured → (index, e') ∈ r.captured → e = e') ∧
      regex.node.numbers.Nodup ∧ ∀ index ∈ regex.node.numbers, index ≤ r.captures := by
  obtain ⟨q, f, again, closed, worked, _⟩ := compileSteps compiled
  cases read.symm.trans again
  have numbered : r.Numbered := (Reader.readAllKeeps read).2 .nil
  have inside : r.inside.captured.Perm r.captured := by
    refine (Reader.insideCaptured r).trans (.of_eq ?_)
    rw [Reader.captured, closed, List.flatMap_nil, List.append_nil]
  have numbers : (r.captured.map Prod.fst).Perm (List.range' 1 r.captures) := by
    rw [Reader.Numbered, Reader.numbers, closed, List.flatMap_nil, List.append_nil] at numbered
    exact numbered
  have distinct : (r.captured.map Prod.fst).Nodup := numbers.nodup_iff.mpr List.nodup_range'
  have groups := Expr.nodeWorked worked
  have fewer := Expr.workedNumbers groups
  refine ⟨?_, ?_, ?_, ?_⟩
  · intro index body member
    obtain ⟨e, g, g', listed, done⟩ := Expr.workedMember groups member
    exact ⟨e, g, g', inside.subset listed, done⟩
  · intro index e e' one other
    exact (Prod.mk.inj (List.inj_on_of_nodup_map distinct one other rfl)).2
  · exact fewer.nodup ((inside.map Prod.fst).nodup_iff.mpr distinct)
  · intro index member
    have listed := numbers.subset ((inside.map Prod.fst).subset (fewer.subset member))
    rw [List.mem_range'_1] at listed
    omega

theorem groupsCounted (compiled : compile source = .ok regex)
    (read : ({} : Reader).readAll source.toList.length source.toList = .ok r)
    (tailed : r.Tailed) : regex.groupCount = r.captures := by
  obtain ⟨_, _, _, below⟩ := compiledGroups compiled read
  obtain ⟨q, f, again, _, worked, _⟩ := compileSteps compiled
  cases read.symm.trans again
  obtain ⟨fragment, before, items⟩ := tailed
  have holds : Expr.Holds r.captures r.inside := by
    have last : Expr.Holds r.captures (.seq (.times 0 (some 1) true
        (.group (.capture r.captures) fragment)) (.anchor .lineEnd)) :=
      Expr.holdsSeq _ _ (.inl (Expr.holdsOptional true fragment))
    rw [Reader.inside, items]
    exact Expr.holdsFold Expr.holdsAlt r.branches
      (Expr.holdsFold (fun a b holds => Expr.holdsSeq a b (.inr holds)) before last)
  exact Nat.le_antisymm (Node.lastGroupWithin below) (Node.numbersBelow (holds _ _ _ worked))

/- The text of a group is what its span took. -/
theorem groupTaken (compiled : compile source = .ok regex)
    (read : ({} : Reader).readAll source.toList.length source.toList = .ok r) {span : Span}
    (member : (span.index, span.body) ∈ r.captured) {text : List Char} {t : Thread}
    (found : regex.find? text = some t) {size : Nat} (inside : 2 * span.index + 1 < size) :
    span.Takes text t.slots (groupText text (saves t.slots size) span.index) := by
  obtain ⟨sources, single, distinct, _⟩ := compiledGroups compiled read
  obtain ⟨_, taken⟩ := findSound found
  rcases Node.matchRecords distinct taken with ⟨new, slots, silent⟩ | ⟨node, lo, hi, group, took⟩
  · have never : Silent span.index t.slots := by
      have same : t.slots = new := slots.trans (List.append_nil new)
      rw [same]
      exact silent
    rw [groupTextSilent never inside]
    exact .never never
  · obtain ⟨e, f, f', listed, done⟩ := sources _ _ group
    cases single _ _ _ listed member
    rw [groupTextLast took inside]
    exact .last done took

end Regex

namespace Route
open Regex (Reader groupSpans groupTotal endsOutside)
open Regex.Reader (Enclosed)

namespace PathPattern

theorem compiledParts {template : String} {segments : List Segment} {p : PathPattern}
    (split : readSegments (template.toList.drop 1) = .ok segments)
    (compiled : compile template = .ok p) :
    Regex.compile (String.ofList (assemble segments)) = .ok p.regex ∧
      p.slugNames = (namedSegments segments).map Prod.fst ∧
      p.slugPositions = (namedSegments segments).map Prod.snd := by
  obtain ⟨rest, segments', slash, split', built, same⟩ := compileSteps compiled
  rw [slash, List.drop_one, List.tail_cons, split'] at split
  cases split
  exact ⟨built, by rw [same], by rw [same]⟩

/- The tail is read as it stands, and its last group is the last of all. -/
theorem totalCounted {segments : List Segment} {regex : Regex}
    (built : Regex.compile (String.ofList (assemble segments)) = .ok regex)
    (outside : endsOutside (assemble segments) = true) :
    regex.groupCount = groupTotal (assemble segments) := by
  obtain ⟨r, f, read, closed, _, _⟩ := Regex.compileSteps built
  have plain := read
  rw [String.toList_ofList] at plain
  have silent : r.verbose = false := by
    simpa [endsOutside, plain] using outside
  have tailed : r.Tailed := by
    rcases (assembleReads plain closed).2 with verbose | tailed
    · rw [silent] at verbose
      cases verbose
    · exact tailed
  rw [Regex.groupsCounted built read tailed, groupTotal, plain]

theorem capturesLength {p : PathPattern} {path : String} {values : List String}
    (taken : p.captures? path = some values) :
    values.length = p.regex.groupCount - tailGroups := by
  obtain ⟨t, _, rfl⟩ := Option.map_eq_some_iff.mp taken
  rw [List.length_map, List.length_range]

/- Where the group with the number of a slug is its own segment, the value of the slug is what
this group took. -/
theorem ownValue {path : String} {segments : List Segment} {p : PathPattern} {values : List String}
    (built : Regex.compile (String.ofList (assemble segments)) = .ok p.regex)
    (taken : p.captures? path = some values) :
    ∃ t, p.regex.find? path.toList = some t ∧
      ∀ i position, OwnGroup segments i position → i < values.length →
        ∃ span ∈ groupSpans (assemble segments), span.place = placeAt segments position ∧
          ∃ piece, span.Takes path.toList t.slots piece ∧
            values[i]? = some (String.ofList piece) := by
  obtain ⟨r, f, read, _⟩ := Regex.compileSteps built
  have plain := read
  rw [String.toList_ofList] at plain
  obtain ⟨t, found, rfl⟩ := Option.map_eq_some_iff.mp taken
  refine ⟨t, found, fun i position own inside => ?_⟩
  obtain ⟨span, member, number, stands⟩ := own
  rw [List.length_map, List.length_range] at inside
  have listed := Reader.spansCaptured plain span member
  have bound : 2 * span.index + 1 < 2 * (p.regex.groupCount - tailGroups) + 2 := by omega
  refine ⟨span, member, stands, _, Regex.groupTaken built read listed found bound, ?_⟩
  rw [List.getElem?_map, List.getElem?_range inside, number]
  rfl

/- There is one value for each group but the last two. -/
theorem slugsOwnValues {H : Type} {template path : String} {segments : List Segment}
    {p : PathPattern} {values : List String}
    (split : readSegments (template.toList.drop 1) = .ok segments)
    (compiled : compile template = .ok p) (taken : p.captures? path = some values) :
    (endsOutside (assemble segments) = true →
        values.length = groupTotal (assemble segments) - tailGroups) ∧
      (∃ t, p.regex.find? path.toList = some t ∧
        ∀ i position, p.slugPositions[i]? = some position → OwnGroup segments i position →
          i < values.length → ∃ span ∈ groupSpans (assemble segments),
            span.place = placeAt segments position ∧ ∃ piece,
              span.Takes path.toList t.slots piece ∧ values[i]? = some (String.ofList piece)) ∧
      (p.slugNames.length ≤ values.length →
        ∀ (methods : MethodSet) (handler : H) (i : Nat) (name : String),
          p.slugNames[i]? = some name →
            let slugs := (⟨⟨p, methods, handler⟩, values⟩ : Chosen H).slugs
            (slugs.get? name).isSome = true ∧
              ((∀ j, p.slugNames[j]? = some name → j = i) → slugs.get? name = values[i]?)) := by
  obtain ⟨built, names, positions⟩ := compiledParts split compiled
  obtain ⟨t, found, valued⟩ := ownValue built taken
  refine ⟨fun outside => ?_, ⟨t, found, ?_⟩, fun enough methods handler i name given => ?_⟩
  · rw [capturesLength taken, totalCounted built outside]
  · exact fun i position _ own inside => valued i position own inside
  · exact Http.Slugs.getZipped enough given

/- A group inside of a body has a value of its own, and the values behind it move on. A body
that takes the number from its group, and a comment that takes the groups of the tail, leave
too few values. -/
theorem innerGroupCounted :
    (∃ p, compile "/:kind((a|b)c)" = .ok p ∧ p.slugNames = ["kind"] ∧
      p.captures? "/ac" = some ["ac", "a"]) ∧
    (∃ p, compile "/:kind((a|b)c)/:id" = .ok p ∧ p.slugNames = ["kind", "id"] ∧
      p.captures? "/ac/7" = some ["ac", "a", "7"] ∧
      (⟨⟨p, .all, ()⟩, ["ac", "a", "7"]⟩ : Chosen Unit).slugs.get? "id" = some "a") ∧
    (∃ p, compile "/:kind(?:ab)" = .ok p ∧ p.slugNames = ["kind"] ∧
      p.captures? "/ab" = some [] ∧
      (⟨⟨p, .all, ()⟩, []⟩ : Chosen Unit).slugs.get? "kind" = none) ∧
    ∃ p, compile "/:id/(?x)#" = .ok p ∧ p.slugNames = ["id"] ∧
      p.captures? "/7/" = some [] ∧
      (⟨⟨p, .all, ()⟩, []⟩ : Chosen Unit).slugs.get? "id" = none := by
  refine ⟨⟨_, rfl, rfl, ?_⟩, ⟨_, rfl, rfl, ?_, ?_⟩, ⟨_, rfl, rfl, ?_, ?_⟩, _, rfl, rfl, ?_, ?_⟩
  · decide +kernel
  · decide +kernel
  · decide +kernel
  · decide +kernel
  · decide +kernel
  · decide +kernel
  · decide +kernel

/- The source is ^/([^/?#]+)/(p([0-9]+)) and the tail. -/
theorem innerGroupLast : ∃ p, compile "/:user/:page(p([0-9]+))" = .ok p ∧
    let segments : List Segment := [.slug "user".toList Segment.defaultBody,
      .slug "page".toList "p([0-9]+)".toList]
    readSegments ("/:user/:page(p([0-9]+))".toList.drop 1) = .ok segments ∧
      p.captures? "/ada/p12" = some ["ada", "p12", "12"] ∧
      3 = groupTotal (assemble segments) - tailGroups ∧
      OwnGroup segments 1 1 ∧
      (∃ t, p.regex.find? "/ada/p12".toList = some t ∧ ∃ span ∈ groupSpans (assemble segments),
        span.place = placeAt segments 1 ∧ ∃ piece,
          span.Takes "/ada/p12".toList t.slots piece ∧ some "p12" = some (String.ofList piece)) ∧
      (⟨⟨p, .all, ()⟩, ["ada", "p12", "12"]⟩ : Chosen Unit).slugs.get? "page" = some "p12" := by
  obtain ⟨p, compiled, taken, names, positions⟩ :
      ∃ p, compile "/:user/:page(p([0-9]+))" = .ok p ∧
        p.captures? "/ada/p12" = some ["ada", "p12", "12"] ∧ p.slugNames = ["user", "page"] ∧
        p.slugPositions = [0, 1] := by
    refine ⟨_, rfl, ?_, rfl, rfl⟩
    decide +kernel
  refine ⟨p, compiled, ?_⟩
  intro segments
  have split : readSegments ("/:user/:page(p([0-9]+))".toList.drop 1) = .ok segments := rfl
  have outside : endsOutside (assemble segments) = true := by decide +kernel
  have user : ∀ q ∈ [Part.plain (.slug .colon "user".toList)], q.Legal := by decide
  have enclosed : Enclosed "p([0-9]+)".toList := by
    have letters : "p([0-9]+)".toList = ['p', '(', '[', '0', '-', '9', ']', '+', ')'] := rfl
    rw [letters]
    intro r rest silent
    obtain ⟨verbose, captures, names, branches, items, frames⟩ := r
    cases silent
    -- the letter, the inner parenthesis, the class, its sign and the parenthesis that closes
    refine ⟨rfl, _, ?_, ?_, .step rfl rfl (Nat.le_refl _) (Nat.le_refl _)
      (.step rfl rfl (Nat.le_refl _) (Nat.le_succ _)
        (.step rfl rfl (Nat.le_add_right _ 4) (Nat.le_succ _)
          (.step rfl rfl (Nat.le_refl _) (Nat.le_succ _)
            (.step rfl rfl (Nat.le_refl _) (Nat.le_refl _) (.stay _ _)))))⟩
    · rfl
    · rfl
  have own := Part.ownGroup "page".toList [] user enclosed
  obtain ⟨count, ⟨t, found, value⟩, bound⟩ := slugsOwnValues (H := Unit) split compiled taken
  have valued := value 1 1 (by rw [positions]; rfl) own (by decide)
  refine ⟨split, taken, count outside, own, ⟨t, found, valued⟩, ?_⟩
  refine (bound (by rw [names]; decide) .all () 1 "page" (by rw [names]; rfl)).2 fun j named => ?_
  rw [names] at named
  match j with
  | 0 => exact absurd named (by decide)
  | 1 => rfl
  | j + 2 => cases named

end PathPattern

/- Each slug has a value, and it is what the segment of the slug took. -/
theorem Part.ownValues {parts : List Part} {p : PathPattern} {path : String} {values : List String}
    (filled : parts ≠ []) (legal : ∀ q ∈ parts, q.Legal)
    (compiled : PathPattern.compile (template parts) = .ok p)
    (taken : p.captures? path = some values) :
    ∃ t, p.regex.find? path.toList = some t ∧
      ∀ i position : Nat, p.slugPositions[i]? = some position →
        ∃ span ∈ groupSpans (assemble (parts.map segment)),
          span.place = placeAt (parts.map segment) position ∧
            ∃ piece, span.Takes path.toList t.slots piece ∧
              values[i]? = some (String.ofList piece) := by
  have split : readSegments ((template parts).toList.drop 1) = .ok (parts.map segment) := by
    rw [template, String.toList_ofList, List.drop_one, List.tail_cons, readSegmentsParts filled legal]
  obtain ⟨built, _, positions⟩ := PathPattern.compiledParts split compiled
  obtain ⟨t, found, valued⟩ := PathPattern.ownValue built taken
  refine ⟨t, found, fun i position placed => ?_⟩
  rw [positions] at placed
  obtain ⟨inside, own⟩ := ownGroups legal placed
  rw [← valuesCounted filled legal compiled, ← PathPattern.capturesLength taken] at inside
  exact valued i position own inside

end Route
end Signpost
