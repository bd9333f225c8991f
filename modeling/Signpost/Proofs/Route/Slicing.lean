import Signpost.Proofs.Route.Compilation
import Signpost.Proofs.Text.Cutting
import Signpost.Route.Slicing

/-! A template that is read by offsets in bytes. No cut is out of bounds or inside of a character,
whatever the template, so every reading has its result; and it is the one by characters. -/
namespace Signpost.Route
open Text (Cutting byteSize byteSizeAppend byteSizeCons byteSizeNil offsetJoined offsetMissing)
open Text.Cutting (givesBind givesPure takesGives takesMinus takesNothing takesPure takesSlice
  takesText)

namespace Segment

theorem escapedAppend (front back : List Char) :
    escaped (front ++ back) = escaped front ++ escaped back := List.flatMap_append

theorem escapedCons (c : Char) (text : List Char) :
    ∃ sign, (sign = [] ∨ sign = ['\\']) ∧ escaped (c :: text) = sign ++ c :: escaped text := by
  by_cases special : c = '.' ∨ c = '^' ∨ c = '$'
  · exact ⟨['\\'], .inr rfl, by simp [escaped, special]⟩
  · exact ⟨[], .inl rfl, by simp [escaped, special]⟩

theorem escapedFree {text : List Char} (free : '*' ∉ text) : '*' ∉ escaped text := by
  induction text with
  | nil => exact free
  | cons c cs ih =>
    rw [List.mem_cons, not_or] at free
    obtain ⟨sign, signs, same⟩ := escapedCons c cs
    rw [same, List.mem_append, List.mem_cons]
    rintro (inSign | here | later)
    · rcases signs with rfl | rfl <;> simp at inSign
    · exact free.1 here
    · exact ih free.2 later

theorem escapedStars (run : Nat) :
    escaped (List.replicate run '*') = List.replicate run '*' := by
  induction run with
  | zero => rfl
  | succ run ih => exact congrArg ('*' :: ·) ih

theorem escapedEnded {text : List Char} (ended : text.head? ≠ some '*') :
    (escaped text).head? ≠ some '*' := by
  cases text with
  | nil => exact ended
  | cons c cs =>
    obtain ⟨sign, rfl | rfl, same⟩ := escapedCons c cs
    · rw [same]
      exact ended
    · simp [same]

/- Escaping lengthens the text around the stars only. -/
theorem starredEscaped {segment before after : List Char} {run : Nat}
    (starred : Starred segment before after run) :
    Starred (escaped segment) (escaped before) (escaped after) run := by
  refine ⟨?_, escapedFree starred.free, escapedEnded starred.ended⟩
  rw [starred.joined, escapedAppend, escapedAppend, escapedStars]

theorem byteSizeStars (run : Nat) : byteSize (List.replicate run '*') = run := by
  induction run with
  | zero => rfl
  | succ run ih =>
    rw [List.replicate_succ, byteSizeCons, ih, Nat.add_comm]
    rfl

section
variable {segment before after : List Char} {run : Nat}

theorem starredOffset (starred : Starred segment before after (run + 1)) :
    Text.offsetOf? '*' (escaped segment) = some (byteSize (escaped before)) := by
  obtain ⟨joined, free, _⟩ := starredEscaped starred
  rw [joined, List.append_assoc, List.replicate_succ, List.cons_append, offsetJoined free]

theorem starredSize (starred : Starred segment before after run) :
    byteSize (escaped segment) = byteSize (escaped before) + run + byteSize (escaped after) := by
  rw [(starredEscaped starred).joined, byteSizeAppend, byteSizeAppend, byteSizeStars]

theorem starsTakes (starred : Starred segment before after run) :
    (Cutting.slice (escaped segment) (byteSize (escaped before)) (byteSize (escaped segment))).Takes
      [List.replicate run '*' ++ escaped after] (List.replicate run '*' ++ escaped after) := by
  refine takesSlice (escaped before) _ [] ?_ rfl ?_
  · rw [(starredEscaped starred).joined, List.append_nil, List.append_assoc]
  · rw [starredSize starred, byteSizeAppend, byteSizeStars, Nat.add_assoc]

theorem beforeTakes (starred : Starred segment before after run) :
    (Cutting.slice (escaped segment) 0 (byteSize (escaped before))).Takes
      [escaped before] (escaped before) := by
  refine takesSlice [] _ (List.replicate run '*' ++ escaped after) ?_ rfl ?_
  · rw [(starredEscaped starred).joined, List.nil_append, List.append_assoc]
  · rw [byteSizeNil, Nat.zero_add]

theorem afterTakes (starred : Starred segment before after run) :
    (Cutting.slice (escaped segment) (byteSize (escaped before) + run)
      (byteSize (escaped segment))).Takes [escaped after] (escaped after) := by
  refine takesSlice (escaped before ++ List.replicate run '*') _ [] ?_ ?_ ?_
  · rw [(starredEscaped starred).joined, List.append_nil]
  · rw [byteSizeAppend, byteSizeStars]
  · rw [starredSize starred, byteSizeAppend, byteSizeStars]

theorem starredTakes {body : List Char} (starred : Starred segment before after (run + 1))
    (wildcard : wildcard? (run + 1) = some body) :
    (slicedPattern segment).Takes
      [List.replicate (run + 1) '*' ++ escaped after, escaped before, escaped after]
      (.ok (escaped before ++ body ++ escaped after)) := by
  simp only [slicedPattern, starredOffset starred]
  refine takesText (starsTakes starred) ?_
  rw [(runTaken (starredEscaped starred).ended (run + 1)).1, List.length_replicate, wildcard]
  exact takesText (beforeTakes starred) (takesText (afterTakes starred) (takesPure _))

theorem longTakes (starred : Starred segment before after (run + 1))
    (long : wildcard? (run + 1) = none) :
    (slicedPattern segment).Takes [List.replicate (run + 1) '*' ++ escaped after]
      (.error (.wildcard (run + 1))) := by
  simp only [slicedPattern, starredOffset starred]
  refine takesText (starsTakes starred) ?_
  rw [(runTaken (starredEscaped starred).ended (run + 1)).1, List.length_replicate, long]
  exact takesPure _

end

theorem patternGives (segment : List Char) :
    (slicedPattern segment).Gives (patternSource segment) := by
  by_cases member : '*' ∈ segment
  · obtain ⟨before, after, run, starred⟩ := starred member
    rw [patternStarred starred]
    cases wildcard : wildcard? (run + 1) with
    | none => exact takesGives (longTakes starred wildcard)
    | some body => exact takesGives (starredTakes starred wildcard)
  · rw [patternFree member]
    simp only [slicedPattern, offsetMissing (escapedFree member)]
    exact givesPure _

theorem colonTakes {name body : List Char} (free : '(' ∉ name) :
    (slicedSlug (':' :: (name ++ '(' :: (body ++ [')'])))).Takes [name, body]
      (some (name, body)) := by
  have front : byteSize (name ++ ['(']) = byteSize name + 1 := byteSizeAppend name ['(']
  have size : byteSize (name ++ '(' :: (body ++ [')'])) =
      byteSize (name ++ ['(']) + byteSize body + 1 := by
    rw [List.append_cons, byteSizeAppend, byteSizeAppend body, ← Nat.add_assoc]
    rfl
  have closed : (name ++ '(' :: (body ++ [')'])).getLast? = some ')' :=
    closedBehind.mpr List.getLast?_concat
  simp only [slicedSlug, offsetJoined free, closed, if_true]
  refine takesText (takesSlice [] name ('(' :: (body ++ [')'])) rfl rfl ?_) ?_
  · rw [byteSizeNil, Nat.zero_add]
  refine takesNothing (takesMinus (by omega)) ?_
  refine takesText (takesSlice (name ++ ['(']) body [')'] ?_ front.symm ?_) (takesPure _)
  · rw [List.append_cons, List.append_assoc (name ++ ['('])]
  · omega

theorem bracesTakes (inside : List Char) :
    (slicedSlug ('\x7b' :: (inside ++ ['\x7d']))).Takes [inside]
      (slug? ('\x7b' :: (inside ++ ['\x7d']))) := by
  have size : byteSize ('\x7b' :: (inside ++ ['\x7d'])) = 1 + byteSize inside + 1 := by
    rw [byteSizeCons, byteSizeAppend, ← Nat.add_assoc]
    rfl
  have braced : 2 ≤ byteSize ('\x7b' :: (inside ++ ['\x7d'])) ∧
      ('\x7b' :: (inside ++ ['\x7d'])).head? = some '\x7b' ∧
      ('\x7b' :: (inside ++ ['\x7d'])).getLast? = some '\x7d' := by
    refine ⟨by omega, rfl, ?_⟩
    rw [← List.cons_append, List.getLast?_concat]
  rw [bracesSlug, slicedSlug, if_pos braced]
  · refine takesNothing (takesMinus (by omega)) ?_
    refine takesText (takesSlice ['\x7b'] inside ['\x7d'] rfl rfl ?_) ?_
    · rw [size]
      rfl
    cases Text.splitAtFirst [':'] inside <;> exact takesPure _
  · rintro rest ⟨⟩

theorem colonGives (rest : List Char) :
    (slicedSlug (':' :: rest)).Gives (slug? (':' :: rest)) := by
  by_cases opened : '(' ∈ rest
  · obtain ⟨name, after, rfl, free⟩ := List.eq_append_cons_of_mem opened
    by_cases closed : (name ++ '(' :: after).getLast? = some ')'
    · obtain ⟨body, rfl⟩ := List.getLast?_eq_some_iff.mp (closedBehind.mp closed)
      rw [slugSpelled (.colonBody free)]
      exact takesGives (colonTakes free)
    · simp only [slicedSlug, offsetJoined free]
      rw [if_neg closed, colonSlug fun given => closed given.2]
      exact givesPure _
  · simp only [slicedSlug, offsetMissing opened]
    rw [colonSlug fun given => opened given.1]
    exact givesPure _

/- No single character both opens and closes. -/
theorem bracedLong {segment : List Char} (opens : segment.head? = some '\x7b')
    (closes : segment.getLast? = some '\x7d') : 2 ≤ segment.length := by
  match segment, opens, closes with
  | c :: d :: rest, _, _ => simp

theorem plainGives {segment : List Char} (plain : ¬ IsSlug segment) :
    (slicedSlug segment).Gives none := by
  unfold slicedSlug
  split
  next rest => exact absurd (.inl rfl) plain
  · rw [if_neg fun braced => plain (.inr ⟨bracedLong braced.2.1 braced.2.2, braced.2⟩)]
    exact givesPure none

theorem slugGives (segment : List Char) : (slicedSlug segment).Gives (slug? segment) := by
  by_cases slug : IsSlug segment
  · rcases slugCases slug with ⟨rest, rfl⟩ | ⟨inside, rfl⟩
    · exact colonGives rest
    · exact takesGives (bracesTakes inside)
  · have none : slug? segment = none := by simpa [slugRead] using slug
    rw [none]
    exact plainGives slug

theorem readGives (segment : List Char) : (slicedRead segment).Gives (read segment) := by
  rw [read]
  refine givesBind (slugGives segment) ?_
  cases slug? segment with
  | some slug => exact givesPure _
  | none =>
    refine givesBind (patternGives segment) ?_
    cases patternSource segment <;> exact givesPure _

end Segment

theorem segmentsGive (pieces : List (List Char)) :
    (slicedSegments pieces).Gives (pieces.mapM Segment.read) := by
  induction pieces with
  | nil => exact givesPure _
  | cons piece pieces ih =>
    rw [List.mapM_cons]
    refine givesBind (Segment.readGives piece) ?_
    cases Segment.read piece with
    | error fault => exact givesPure _
    | ok segment =>
      refine givesBind ih ?_
      cases pieces.mapM Segment.read <;> exact givesPure _

namespace PathPattern

theorem compileGives (template : String) : (slicedCompile template).Gives (compile template) := by
  by_cases head : template.toList.head? = some '/'
  · obtain ⟨rest, slash⟩ := List.head?_eq_some_iff.mp head
    simp only [slicedCompile, compile, slash, readSegments]
    refine givesBind (segmentsGive (Text.fields '/' rest)) ?_
    cases (Text.fields '/' rest).mapM Segment.read with
    | error fault => exact givesPure _
    | ok segments =>
      dsimp only
      cases Regex.compile (String.ofList (assemble segments)) <;> exact givesPure _
  · rw [compileBare head]
    unfold slicedCompile
    split
    next rest slash => exact absurd (by rw [slash]; rfl) head
    · exact givesPure _

end PathPattern

open Segment (Starred escaped slicedPattern slicedSlug)

/- `escaped` puts a backslash in front of each `.`, `^` and `$`. -/
theorem slicesSafe :
    (∀ segment, (slicedSlug segment).Gives (Segment.slug? segment)) ∧
      (∀ segment, (slicedPattern segment).Gives (Segment.patternSource segment)) ∧
      (∀ template, (PathPattern.slicedCompile template).Gives (PathPattern.compile template)) ∧
      (∀ name body, '(' ∉ name → (slicedSlug (':' :: (name ++ '(' :: (body ++ [')'])))).Takes
        [name, body] (some (name, body))) ∧
      (∀ inside, (slicedSlug ('\x7b' :: (inside ++ ['\x7d']))).Takes
        [inside] (Segment.slug? ('\x7b' :: (inside ++ ['\x7d'])))) ∧
      (∀ segment before after, Starred segment before after 1 → (slicedPattern segment).Takes
        ['*' :: escaped after, escaped before, escaped after]
        (.ok (escaped before ++ "[^/]+".toList ++ escaped after))) ∧
      ∀ segment before after, Starred segment before after 2 → (slicedPattern segment).Takes
        ['*' :: '*' :: escaped after, escaped before, escaped after]
        (.ok (escaped before ++ ".*[^/]+".toList ++ escaped after)) :=
  ⟨Segment.slugGives, Segment.patternGives, PathPattern.compileGives,
    fun _ _ => Segment.colonTakes, Segment.bracesTakes,
    fun _ _ _ starred => Segment.starredTakes starred rfl,
    fun _ _ _ starred => Segment.starredTakes starred rfl⟩

/- The name, the body and the text around the stars hold characters of several bytes, and the text
in front of the stars is lengthened by its escapes. -/
theorem accentsSliced :
    '(' ∉ "é".toList ∧ (slicedSlug ":é(日)".toList).Takes ["é".toList, "日".toList]
        (some ("é".toList, "日".toList)) ∧
      Starred "^é.*ü".toList "^é.".toList "ü".toList 1 ∧
      (slicedPattern "^é.*ü".toList).Takes
        ["*ü".toList, "\\^é\\.".toList, "ü".toList] (.ok "\\^é\\.[^/]+ü".toList) ∧
      Starred "日**$".toList "日".toList "$".toList 2 ∧
      (slicedPattern "日**$".toList).Takes
        ["**\\$".toList, "日".toList, "\\$".toList] (.ok "日.*[^/]+\\$".toList) := by
  obtain ⟨_, _, _, colon, _, single, double⟩ := slicesSafe
  have free : '(' ∉ "é".toList := by decide
  have one : Starred "^é.*ü".toList "^é.".toList "ü".toList 1 := ⟨rfl, by decide, by decide⟩
  have two : Starred "日**$".toList "日".toList "$".toList 2 := ⟨rfl, by decide, by decide⟩
  exact ⟨free, colon _ ['日'] free, one, single _ _ _ one, two, double _ _ _ two⟩

end Signpost.Route
