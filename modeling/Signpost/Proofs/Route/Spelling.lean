import Signpost.Proofs.Text.Fields
import Signpost.Route.Segment

/-! The spellings of a segment, and what each of them stands for. A slug may have any name and any
body here; whether the name is legal is asked afterwards, and so is how many stars stand in the
first run of another segment. -/
namespace Signpost.Route
namespace Segment

/- The segments that are slugs, each with its name and its body. A parenthesis in a name behind a
colon opens a body, if one closes it at the end. -/
inductive Spells : List Char → List Char → List Char → Prop
  | colon {name} (bodiless : ¬ ('(' ∈ name ∧ name.getLast? = some ')')) :
      Spells (':' :: name) name defaultBody
  | colonBody {name body} (free : '(' ∉ name) :
      Spells (':' :: (name ++ '(' :: (body ++ [')']))) name body
  | braces {name} (free : ':' ∉ name) : Spells ('\x7b' :: (name ++ ['\x7d'])) name defaultBody
  | emptyBody {name} (free : ':' ∉ name) :
      Spells ('\x7b' :: (name ++ [':'] ++ ['\x7d'])) name defaultBody
  | bracesBody {name body} (free : ':' ∉ name) (filled : body ≠ []) :
      Spells ('\x7b' :: (name ++ ':' :: body ++ ['\x7d'])) name body

def IsSlug (segment : List Char) : Prop :=
  segment.head? = some ':' ∨
    2 ≤ segment.length ∧ segment.head? = some '\x7b' ∧ segment.getLast? = some '\x7d'

theorem closedBehind {name after : List Char} :
    (name ++ '(' :: after).getLast? = some ')' ↔ after.getLast? = some ')' := by
  rw [List.getLast?_append, List.getLast?_cons]
  cases after.getLast? <;> simp

theorem colonSlug {name : List Char} (bodiless : ¬ ('(' ∈ name ∧ name.getLast? = some ')')) :
    slug? (':' :: name) = some (name, defaultBody) := by
  simp only [slug?]
  split
  next before body split =>
    have unclosed : body.getLast? ≠ some ')' := by
      intro closed
      rw [Text.splitJoins split] at bodiless
      exact bodiless ⟨by simp, closedBehind.mpr closed⟩
    rw [if_neg unclosed]
  · rfl

theorem bracesSlug {inside : List Char} :
    slug? ('\x7b' :: (inside ++ ['\x7d'])) =
      some ((Text.splitAtFirst [':'] inside).elim (inside, defaultBody) fun cut =>
        (cut.1, if cut.2.isEmpty then defaultBody else cut.2)) := by
  have last : (inside ++ ['\x7d']).getLast? = some '\x7d' := List.getLast?_concat
  have front : (inside ++ ['\x7d']).dropLast = inside := List.dropLast_concat
  cases split : Text.splitAtFirst [':'] inside <;>
    simp only [slug?, last, front, split, if_true, Option.elim_none, Option.elim_some]

theorem slugSpelled {segment name body : List Char} (spelled : Spells segment name body) :
    slug? segment = some (name, body) := by
  cases spelled with
  | colon bodiless => exact colonSlug bodiless
  | colonBody free =>
    have last : (body ++ [')']).getLast? = some ')' := List.getLast?_concat
    simp only [slug?, Text.splitFirst free, last, List.dropLast_concat, if_true]
  | braces free => rw [bracesSlug, Text.splitMissing free, Option.elim_none]
  | emptyBody free =>
    rw [bracesSlug, Text.splitFirst free, Option.elim_some, List.isEmpty_nil, if_pos rfl]
  | bracesBody free filled =>
    have kept : ¬ body.isEmpty = true := by simpa using filled
    rw [bracesSlug, Text.splitFirst free, Option.elim_some, if_neg kept]

theorem colonSpells {rest name body : List Char}
    (read : slug? (':' :: rest) = some (name, body)) : Spells (':' :: rest) name body := by
  simp only [slug?] at read
  split at read
  next before after split =>
    obtain ⟨rfl, free⟩ := Text.splitExactly.mp split
    split at read
    next closed =>
      cases read
      obtain ⟨inner, rfl⟩ := List.getLast?_eq_some_iff.mp closed
      rw [List.dropLast_concat]
      exact .colonBody free
    next unclosed =>
      cases read
      exact .colon fun given => unclosed (closedBehind.mp given.2)
  next missing =>
    cases read
    exact .colon fun given => Text.splitNone.mp missing given.1

theorem bracesSpells {inside name body : List Char}
    (read : slug? ('\x7b' :: (inside ++ ['\x7d'])) = some (name, body)) :
    Spells ('\x7b' :: (inside ++ ['\x7d'])) name body := by
  rw [bracesSlug] at read
  cases split : Text.splitAtFirst [':'] inside with
  | none =>
    rw [split] at read
    cases read
    exact .braces (Text.splitNone.mp split)
  | some cut =>
    obtain ⟨before, after⟩ := cut
    rw [split] at read
    obtain ⟨rfl, free⟩ := Text.splitExactly.mp split
    cases after with
    | nil =>
      cases read
      exact .emptyBody free
    | cons c cs =>
      cases read
      exact .bracesBody free (List.cons_ne_nil c cs)

theorem slugCases {segment : List Char} (slug : IsSlug segment) :
    (∃ rest, segment = ':' :: rest) ∨ ∃ inside, segment = '\x7b' :: (inside ++ ['\x7d']) := by
  rcases slug with colon | ⟨long, brace, last⟩
  · obtain ⟨rest, same⟩ := List.head?_eq_some_iff.mp colon
    exact .inl ⟨rest, same⟩
  · obtain ⟨rest, rfl⟩ := List.head?_eq_some_iff.mp brace
    cases rest with
    | nil => simp at long
    | cons c cs =>
      rw [List.getLast?_cons_cons] at last
      obtain ⟨inside, same⟩ := List.getLast?_eq_some_iff.mp last
      exact .inr ⟨inside, by rw [same]⟩

theorem slugRead {segment : List Char} : IsSlug segment ↔ (slug? segment).isSome = true := by
  constructor
  · intro slug
    rcases slugCases slug with ⟨rest, rfl⟩ | ⟨inside, rfl⟩
    · simp only [slug?]
      split
      · split <;> rfl
      · rfl
    · rw [bracesSlug]
      rfl
  · intro read
    unfold slug? at read
    split at read
    next rest => exact .inl rfl
    next rest =>
      split at read
      next closed =>
        obtain ⟨inside, rfl⟩ := List.getLast?_eq_some_iff.mp closed
        exact .inr ⟨by simp, rfl, by rw [← List.cons_append, List.getLast?_concat]⟩
      · cases read
    · cases read

theorem slugExactly {segment name body : List Char} :
    slug? segment = some (name, body) ↔ Spells segment name body := by
  refine ⟨fun read => ?_, slugSpelled⟩
  have slug : IsSlug segment := slugRead.mpr (by rw [read]; rfl)
  rcases slugCases slug with ⟨rest, rfl⟩ | ⟨inside, rfl⟩
  · exact colonSpells read
  · exact bracesSpells read

theorem spelledExactly {segment : List Char} :
    IsSlug segment ↔ ∃ name body, Spells segment name body := by
  simp only [slugRead, Option.isSome_iff_exists, Prod.exists, slugExactly]

/- The text around the first run of stars. -/
structure Starred (segment before after : List Char) (run : Nat) : Prop where
  joined : segment = before ++ List.replicate run '*' ++ after
  free : '*' ∉ before
  ended : after.head? ≠ some '*'

/- What is wrong with a segment. -/
inductive Defect (segment : List Char) : SegmentFault → Prop
  | illegalName {name body} (spelled : Spells segment name body)
      (illegal : ∀ c ∈ name, c.isAlphanum = false ∧ c ≠ '-') : Defect segment (.illegalName name)
  | wildcard {before after run} (plain : ¬ IsSlug segment)
      (starred : Starred segment before after run) (long : 3 ≤ run) : Defect segment (.wildcard run)

/- What a segment without a defect stands for. -/
inductive StandsFor (segment : List Char) : Segment → Prop
  | slug {name body c} (spelled : Spells segment name body) (member : c ∈ name)
      (legal : c.isAlphanum = true ∨ c = '-') : StandsFor segment (.slug name body)
  | literal (plain : ¬ IsSlug segment) (free : '*' ∉ segment) :
      StandsFor segment (.pattern (escaped segment))
  | single {before after} (plain : ¬ IsSlug segment) (starred : Starred segment before after 1) :
      StandsFor segment (.pattern (escaped before ++ "[^/]+".toList ++ escaped after))
  | double {before after} (plain : ¬ IsSlug segment) (starred : Starred segment before after 2) :
      StandsFor segment (.pattern (escaped before ++ ".*[^/]+".toList ++ escaped after))

theorem legalExactly {name : List Char} :
    isLegalName name = true ↔ ∃ c ∈ name, c.isAlphanum = true ∨ c = '-' := by
  simp [isLegalName]

theorem readSlug {segment name body : List Char} (spelled : Spells segment name body) :
    read segment =
      if isLegalName name then .ok (.slug name body) else .error (.illegalName name) := by
  rw [read, slugSpelled spelled]

theorem readPlain {segment : List Char} (plain : ¬ IsSlug segment) :
    read segment = (patternSource segment).map .pattern := by
  have none : slug? segment = none := by simpa [slugRead] using plain
  rw [read, none]
  cases patternSource segment <;> rfl

theorem starred {segment : List Char} (member : '*' ∈ segment) :
    ∃ before after run, Starred segment before after (run + 1) := by
  obtain ⟨before, rest, rfl, free⟩ := List.eq_append_cons_of_mem member
  have run : rest.takeWhile (· == '*') = List.replicate (rest.takeWhile (· == '*')).length '*' :=
    List.eq_replicate_iff.mpr ⟨rfl, fun c inside => by simpa using List.mem_takeWhile_imp inside⟩
  refine ⟨before, rest.dropWhile (· == '*'), (rest.takeWhile (· == '*')).length, ?_, free, ?_⟩
  · rw [List.replicate_succ, ← run, List.append_assoc, List.cons_append,
      List.takeWhile_append_dropWhile]
  · intro head
    have ended := List.head?_dropWhile_not (· == '*') rest
    rw [head] at ended
    simp at ended

theorem runTaken {after : List Char} (ended : after.head? ≠ some '*') (run : Nat) :
    (List.replicate run '*' ++ after).takeWhile (· == '*') = List.replicate run '*' ∧
      (List.replicate run '*' ++ after).dropWhile (· == '*') = after := by
  have stars : ∀ c ∈ List.replicate run '*', (c == '*') = true := by
    intro c inside
    rw [List.eq_of_mem_replicate inside]
    rfl
  rw [List.takeWhile_append_of_pos stars, List.dropWhile_append_of_pos stars]
  cases after with
  | nil => exact ⟨List.append_nil _, rfl⟩
  | cons c cs =>
    have other : (c == '*') = false := by simpa using ended
    simp [other]

theorem patternStarred {segment before after : List Char} {run : Nat}
    (starred : Starred segment before after (run + 1)) :
    patternSource segment = (wildcard? (run + 1)).elim (.error (.wildcard (run + 1)))
      fun body => .ok (escaped before ++ body ++ escaped after) := by
  obtain ⟨rfl, free, ended⟩ := starred
  obtain ⟨front, stars⟩ := Text.whileFree free (List.replicate run '*' ++ after)
  obtain ⟨taken, left⟩ := runTaken ended (run + 1)
  rw [List.replicate_succ, List.cons_append] at taken left
  rw [patternSource, List.append_assoc, List.replicate_succ, List.cons_append]
  simp only [front, stars, taken, left, List.length_cons, List.length_replicate]
  cases wildcard? (run + 1) <;> rfl

theorem patternFree {segment : List Char} (free : '*' ∉ segment) :
    patternSource segment = .ok (escaped segment) := by
  have none : segment.dropWhile (· != '*') = [] :=
    List.dropWhile_eq_nil_iff.mpr (Text.othersFree free)
  rw [patternSource, none]

theorem standsRead {segment : List Char} {s : Segment} (stands : StandsFor segment s) :
    read segment = .ok s := by
  cases stands with
  | slug spelled member legal =>
    rw [readSlug spelled, if_pos (legalExactly.mpr ⟨_, member, legal⟩)]
  | literal plain free => rw [readPlain plain, patternFree free]; rfl
  | single plain starred => rw [readPlain plain, patternStarred starred]; rfl
  | double plain starred => rw [readPlain plain, patternStarred starred]; rfl

theorem defectRead {segment : List Char} {fault : SegmentFault} (defect : Defect segment fault) :
    read segment = .error fault := by
  cases defect with
  | illegalName spelled illegal =>
    rw [readSlug spelled, if_neg]
    rw [legalExactly]
    intro given
    obtain ⟨c, member, alphanumeric | hyphen⟩ := given
    · rw [(illegal c member).1] at alphanumeric
      cases alphanumeric
    · exact (illegal c member).2 hyphen
  | @wildcard before after run plain starred long =>
    match run, long with
    | run + 3, _ => rw [readPlain plain, patternStarred starred]; rfl

/- A segment is defective, or it stands for something. -/
theorem segmentDecided (segment : List Char) :
    (∃ s, StandsFor segment s) ∨ ∃ fault, Defect segment fault := by
  by_cases slug : IsSlug segment
  · obtain ⟨name, body, spelled⟩ := spelledExactly.mp slug
    by_cases legal : ∃ c ∈ name, c.isAlphanum = true ∨ c = '-'
    · obtain ⟨c, member, legal⟩ := legal
      exact .inl ⟨_, .slug spelled member legal⟩
    · refine .inr ⟨_, .illegalName spelled ?_⟩
      simpa using legal
  · by_cases member : '*' ∈ segment
    · obtain ⟨before, after, run, starred⟩ := starred member
      match run with
      | 0 => exact .inl ⟨_, .single slug starred⟩
      | 1 => exact .inl ⟨_, .double slug starred⟩
      | run + 2 => exact .inr ⟨_, .wildcard slug starred (Nat.le_add_left 3 run)⟩
    · exact .inl ⟨_, .literal slug member⟩

theorem standsExactly {segment : List Char} {s : Segment} :
    read segment = .ok s ↔ StandsFor segment s := by
  refine ⟨fun done => ?_, standsRead⟩
  rcases segmentDecided segment with ⟨other, stands⟩ | ⟨fault, defect⟩
  · cases done.symm.trans (standsRead stands)
    exact stands
  · cases done.symm.trans (defectRead defect)

theorem defectExactly {segment : List Char} {fault : SegmentFault} :
    read segment = .error fault ↔ Defect segment fault := by
  refine ⟨fun failed => ?_, defectRead⟩
  rcases segmentDecided segment with ⟨s, stands⟩ | ⟨other, defect⟩
  · cases failed.symm.trans (standsRead stands)
  · cases failed.symm.trans (defectRead defect)
    exact defect

end Segment
end Signpost.Route
