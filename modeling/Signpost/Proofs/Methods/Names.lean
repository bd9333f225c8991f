import Mathlib.Data.List.DropRight
import Signpost.MethodSet
import Signpost.Proofs.Text.Fields

/-! Sets of methods that are read from names. A list of names is refused for the first name of no
known method, and all ways to write a list down come to the same names. -/
namespace Signpost
open Http (Method Verb)

namespace MethodSet

theorem containsEmpty (m : Method) : empty.contains m = false := by
  cases known : m.verb? <;> simp [contains, known]

theorem containsUnion (s t : MethodSet) (m : Method) :
    (s.union t).contains m = (s.contains m || t.contains m) := by
  cases known : m.verb? <;> simp [contains, known]

theorem containsOfVerb (s : MethodSet) (v : Verb) : s.contains (.ofVerb v) = s.has v := by
  simp [contains]

theorem containsExt {s t : MethodSet} (same : ∀ m, s.contains m = t.contains m) : s = t := by
  refine hasExt fun v => ?_
  rw [← containsOfVerb, ← containsOfVerb, same]

theorem containsExact {s : MethodSet} {m : Method} :
    s.contains m = true ↔ ∃ v, m = .ofVerb v ∧ s.has v = true := by
  simp only [contains, Option.any_eq_true, Method.verbExact]

theorem emptyUnion (s : MethodSet) : empty.union s = s := hasExt fun v => by simp

theorem insertUnion (s t : MethodSet) (v : Verb) :
    (s.insertVerb v).union t = (s.union t).insertVerb v :=
  hasExt fun w => by simp [Bool.or_right_comm]

def IsKnown (name : String) : Prop := ∃ v : Verb, v.name = name

instance (name : String) : Decidable (IsKnown name) :=
  decidable_of_iff ((Verb.ofName? name).isSome = true)
    (by simp only [Option.isSome_iff_exists, Verb.ofNameExact, IsKnown])

def firstUnknown? (names : List String) : Option String := names.find? fun name => ¬ IsKnown name

theorem namesKnown (v : Verb) (rest : List String) :
    ofNames (v.name :: rest) = (ofNames rest).map (·.insertVerb v) := by
  rw [ofNames, Verb.ofNameExact.mpr rfl]
  cases ofNames rest <;> rfl

theorem namesHalt {name : String} (unknown : ¬ IsKnown name) (rest : List String) :
    ofNames (name :: rest) = .error ⟨name⟩ := by
  have none : Verb.ofName? name = none :=
    Option.eq_none_iff_forall_not_mem.mpr fun v found => unknown ⟨v, Verb.ofNameExact.mp found⟩
  rw [ofNames, none]

theorem namesTaken {names : List String} {s : MethodSet} (taken : ofNames names = .ok s) :
    (∀ name ∈ names, IsKnown name) ∧ ∀ v, s.has v = true ↔ v.name ∈ names := by
  induction names generalizing s with
  | nil =>
    cases taken
    simp
  | cons name rest ih =>
    by_cases known : IsKnown name
    · obtain ⟨v, rfl⟩ := known
      rw [namesKnown] at taken
      cases others : ofNames rest with
      | error e => rw [others] at taken; cases taken
      | ok t =>
        rw [others] at taken
        cases taken
        obtain ⟨all, exactly⟩ := ih others
        refine ⟨List.forall_mem_cons.mpr ⟨⟨v, rfl⟩, all⟩, fun w => ?_⟩
        rw [hasInsertVerb, Bool.or_eq_true, exactly, List.mem_cons, beq_iff_eq, or_comm]
        exact or_congr_left ⟨congrArg Verb.name, Verb.nameInjective⟩
    · rw [namesHalt known] at taken
      cases taken

theorem namesRefused {names : List String} {e : UnsupportedMethod} :
    ofNames names = .error e ↔ firstUnknown? names = some e.name := by
  induction names with
  | nil => simp [ofNames, firstUnknown?]
  | cons name rest ih =>
    by_cases known : IsKnown name
    · have skipped : firstUnknown? (name :: rest) = firstUnknown? rest :=
        List.find?_cons_of_neg (by simpa using known)
      obtain ⟨v, rfl⟩ := known
      rw [skipped, namesKnown, ← ih]
      cases ofNames rest <;> simp [Except.map]
    · have halted : firstUnknown? (name :: rest) = some name :=
        List.find?_cons_of_pos (by simpa using known)
      rw [halted, namesHalt known, Except.error.injEq, Option.some.injEq]
      exact ⟨fun same => same ▸ rfl, fun same => by rw [same]⟩

theorem namesAccepted {names : List String} :
    (∃ s, ofNames names = .ok s) ↔ ∀ name ∈ names, IsKnown name := by
  constructor
  · intro given
    obtain ⟨s, taken⟩ := given
    exact (namesTaken taken).1
  · intro all
    cases outcome : ofNames names with
    | ok s => exact ⟨s, rfl⟩
    | error e =>
      have first := namesRefused.mp outcome
      have unknown := List.find?_some first
      exact absurd (all _ (List.mem_of_find?_eq_some first)) (by simpa using unknown)

theorem namesUnknown {names : List String} :
    (∃ e, ofNames names = .error e) ↔ ∃ name ∈ names, ¬ IsKnown name := by
  have accepted : (∃ s, ofNames names = .ok s) ↔ _ := namesAccepted
  cases outcome : ofNames names with
  | ok s =>
    have all := accepted.mp ⟨s, outcome⟩
    simpa using all
  | error e =>
    rw [outcome] at accepted
    simpa using accepted

theorem namesContain {names : List String} {s : MethodSet} (taken : ofNames names = .ok s)
    (m : Method) : s.contains m = true ↔ m.name ∈ names := by
  obtain ⟨all, exactly⟩ := namesTaken taken
  rw [containsExact]
  constructor
  · intro given
    obtain ⟨v, rfl, has⟩ := given
    exact (exactly v).mp has
  · intro listed
    obtain ⟨v, named⟩ := all m.name listed
    refine ⟨v, Method.verbExact.mp (Verb.ofNameExact.mpr named), (exactly v).mpr ?_⟩
    rwa [named]

theorem namesAppend (front back : List String) :
    ofNames (front ++ back) = (ofNames front).bind fun s => (ofNames back).map s.union := by
  induction front with
  | nil =>
    rw [List.nil_append]
    cases outcome : ofNames back with
    | error e => rfl
    | ok t => exact congrArg Except.ok (emptyUnion t).symm
  | cons name rest ih =>
    rw [List.cons_append]
    by_cases known : IsKnown name
    · obtain ⟨v, rfl⟩ := known
      rw [namesKnown, namesKnown, ih]
      cases ofNames rest with
      | error e => rfl
      | ok s =>
        cases ofNames back with
        | error e => rfl
        | ok t => exact congrArg Except.ok (insertUnion s t v).symm
    · rw [namesHalt known, namesHalt known]
      rfl

/- The names in a text, as they are looked up. -/
def namesIn (text : String) : List String := (Text.fields '|' text.toList).map canonicalName

theorem parseNames (text : String) : parse text = ofNames (namesIn text) := rfl

theorem parseAllNames (texts : List String) : parseAll texts = ofNames (texts.flatMap namesIn) := by
  induction texts with
  | nil => rfl
  | cons text rest ih =>
    rw [parseAll, parseNames, ih, List.flatMap_cons, namesAppend]
    cases ofNames (namesIn text) with
    | error e => rfl
    | ok s => cases ofNames (rest.flatMap namesIn) <;> rfl

theorem namesInJoined {texts : List String} (filled : texts ≠ []) :
    namesIn ("|".intercalate texts) = texts.flatMap namesIn := by
  have pieces : texts.map String.toList ≠ [] := by simpa using filled
  have bar : "|".toList = ['|'] := by decide
  simp only [namesIn, String.toList_intercalate, bar, Text.fieldsPieces pieces, List.map_flatMap,
    List.flatMap_map]
  rfl

theorem knownNames (ms : List Method) : ofKnown ms = ofNames (ms.map Method.name) := by
  induction ms with
  | nil => rfl
  | cons m rest ih =>
    rw [ofKnown, List.map_cons, ofNames, ih]
    rfl

theorem containsInsert (s : MethodSet) (m other : Method) :
    (s.insert m).1.contains other = true ↔
      s.contains other = true ∨ other = m ∧ IsKnown m.name := by
  rw [insert]
  cases known : m.verb? with
  | none =>
    have unknown : ¬ IsKnown m.name := by
      intro given
      obtain ⟨v, named⟩ := given
      rw [Method.verb?, Verb.ofNameExact.mpr named] at known
      cases known
    simp [unknown]
  | some v =>
    have named : m = .ofVerb v := Method.verbExact.mp known
    have legal : IsKnown m.name := ⟨v, Verb.ofNameExact.mp known⟩
    simp only [containsExact, hasInsertVerb, Bool.or_eq_true, beq_iff_eq, and_or_left, exists_or,
      exists_eq_right, legal, and_true]
    rw [named]

theorem collectedContains (ms : List Method) (m : Method) :
    (ofMethods ms).contains m = true ↔ m ∈ ms ∧ IsKnown m.name := by
  have general : ∀ s : MethodSet, (ms.foldl (fun s m => (s.insert m).1) s).contains m = true ↔
      s.contains m = true ∨ m ∈ ms ∧ IsKnown m.name := by
    induction ms with
    | nil => simp
    | cons first rest ih =>
      intro s
      rw [List.foldl_cons, ih, containsInsert, or_assoc, List.mem_cons, or_and_right]
      refine or_congr_right (or_congr_left (and_congr_right fun same => ?_))
      rw [same]
  have none : empty.contains m ≠ true := by simp [containsEmpty]
  exact (general empty).trans (or_iff_right none)

/- The text without the blanks around it, and with all that is between them. -/
structure Trims (text inner : List Char) : Prop where
  joined : ∃ front back, text = front ++ inner ++ back ∧
    ∀ c ∈ front ++ back, Unicode.isBlank c = true
  first : ∀ c ∈ inner.head?, Unicode.isBlank c = false
  last : ∀ c ∈ inner.getLast?, Unicode.isBlank c = false

theorem headAfterBlanks (text : List Char) :
    ∀ c ∈ (text.dropWhile Unicode.isBlank).head?, Unicode.isBlank c = false := by
  intro c head
  have first := List.head?_dropWhile_not Unicode.isBlank text
  rwa [Option.mem_def.mp head] at first

theorem blanksKept {text : List Char} (first : ∀ c ∈ text.head?, Unicode.isBlank c = false) :
    text.dropWhile Unicode.isBlank = text := by
  cases text with
  | nil => rfl
  | cons c cs => exact List.dropWhile_cons_of_neg (by simp [first c rfl])

theorem trimmedTrims (text : List Char) : Trims text (trimmed text) := by
  have cut : trimmed text = (text.dropWhile Unicode.isBlank).rdropWhile Unicode.isBlank := rfl
  constructor
  · refine ⟨text.takeWhile Unicode.isBlank,
      (text.dropWhile Unicode.isBlank).rtakeWhile Unicode.isBlank, ?_, ?_⟩
    · rw [cut, List.append_assoc, List.rdropWhile_append_rtakeWhile,
        List.takeWhile_append_dropWhile]
    · intro c member
      rcases List.mem_append.mp member with front | back
      · exact List.mem_takeWhile_imp front
      · exact List.mem_rtakeWhile_imp back
  · intro c head
    obtain ⟨blanks, joined⟩ :=
      List.rdropWhile_prefix Unicode.isBlank (text.dropWhile Unicode.isBlank)
    refine headAfterBlanks text c ?_
    rw [← joined, List.head?_append, ← cut, Option.mem_def.mp head]
    rfl
  · intro c last
    rw [trimmed, List.getLast?_reverse] at last
    exact headAfterBlanks _ c last

theorem trimsUnique {text inner : List Char} (trims : Trims text inner) : trimmed text = inner := by
  obtain ⟨⟨front, back, rfl, blank⟩, first, last⟩ := trims
  rw [List.forall_mem_append] at blank
  have ends : inner.reverse.dropWhile Unicode.isBlank = inner.reverse :=
    blanksKept fun c head => last c (by rwa [List.head?_reverse] at head)
  have start : (front ++ inner ++ back).dropWhile Unicode.isBlank =
      (inner ++ back).dropWhile Unicode.isBlank := by
    rw [List.append_assoc, List.dropWhile_append_of_pos blank.1]
  rw [trimmed, start]
  cases inner with
  | nil => rw [List.nil_append, List.dropWhile_eq_nil_iff.mpr blank.2]; rfl
  | cons c cs =>
    have kept : (c :: cs ++ back).dropWhile Unicode.isBlank = c :: cs ++ back := blanksKept first
    rw [kept, List.reverse_append, List.dropWhile_append_of_pos (by simpa using blank.2), ends,
      List.reverse_reverse]

theorem canonicalExactly {piece : List Char} {name : String} : canonicalName piece = name ↔
    ∃ inner, Trims piece inner ∧ name = String.ofList (inner.map Char.toUpper) := by
  constructor
  · intro same
    exact ⟨trimmed piece, trimmedTrims piece, same.symm⟩
  · intro given
    obtain ⟨inner, trims, rfl⟩ := given
    rw [canonicalName, trimsUnique trims]

/- What is read is the set of the names, or it is refused for the first one that is unknown. -/
structure Lists (names : List String) (read : Except UnsupportedMethod MethodSet) : Prop where
  accepted : (∃ s, read = .ok s) ↔ ∀ name ∈ names, IsKnown name
  contains : ∀ s, read = .ok s → ∀ m : Method, s.contains m = true ↔ m.name ∈ names
  refused : ∀ e, read = .error e ↔ firstUnknown? names = some e.name

theorem namesListed (names : List String) : Lists names (ofNames names) :=
  ⟨namesAccepted, fun _ => namesContain, fun _ => namesRefused⟩

theorem nameListed {ms : List Method} {m : Method} : m.name ∈ ms.map Method.name ↔ m ∈ ms := by
  refine List.mem_map_of_injective fun m other same => ?_
  cases m
  cases same
  rfl

theorem knownCollected {ms : List Method} {s : MethodSet} (taken : ofKnown ms = .ok s) :
    s = ofMethods ms := by
  rw [knownNames] at taken
  have all := (namesTaken taken).1
  refine containsExt fun m => Bool.eq_iff_iff.mpr ?_
  rw [namesContain taken, collectedContains, nameListed]
  exact (and_iff_left_of_imp fun member => all _ (nameListed.mpr member)).symm

end MethodSet

/- A text has at least one name, which is empty where the text is; a list of texts may have none. -/
theorem MethodSpelling.spellingsAgree (text : String) (texts : List String) (ms : List Method) :
    (∀ piece name, MethodSet.canonicalName piece = name ↔ ∃ inner, MethodSet.Trims piece inner ∧
        name = String.ofList (inner.map Char.toUpper)) ∧
      MethodSet.Lists ((Text.fields '|' text.toList).map MethodSet.canonicalName)
        (toSet (.text text)) ∧
      (texts ≠ [] → toSet (.texts texts) = toSet (.text ("|".intercalate texts))) ∧
      toSet (.texts []) = .ok .empty ∧ toSet (.text "") = .error ⟨""⟩ ∧
      MethodSet.Lists (ms.map Method.name) (toSet (.known ms)) ∧
      (∀ s, toSet (.known ms) = .ok s → toSet (.collected ms) = .ok s) ∧
      ∃ s, toSet (.collected ms) = .ok s ∧
        ∀ m, s.contains m = true ↔ m ∈ ms ∧ MethodSet.IsKnown m.name := by
  refine ⟨fun _ _ => MethodSet.canonicalExactly, MethodSet.namesListed _, ?_, rfl, rfl, ?_, ?_, ?_⟩
  · intro filled
    simp only [toSet]
    rw [MethodSet.parseAllNames, MethodSet.parseNames, MethodSet.namesInJoined filled]
  · simp only [toSet]
    rw [MethodSet.knownNames]
    exact MethodSet.namesListed _
  · intro s taken
    rw [MethodSet.knownCollected taken]
    rfl
  · exact ⟨_, rfl, MethodSet.collectedContains ms⟩

end Signpost
