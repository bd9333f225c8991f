import Signpost.Proofs.Chain.Refusal
import Signpost.Proofs.Methods.Names

/-! Sets of methods with a history. A set starts empty, and each step adds what it names, all of
it or, where it is refused, nothing. The members, the names, the size and the texts of a set are
read from its bits in different ways, and they agree. -/
namespace Signpost
open Http (Method Verb)

namespace MethodSpelling
open MethodSet (IsKnown)

def names : MethodSpelling → List String
  | text s => MethodSet.namesIn s
  | texts ss => ss.flatMap MethodSet.namesIn
  | known ms | collected ms => ms.map Method.name

/- Methods are collected without those that are not known; any other list is refused for one. -/
def Taken : MethodSpelling → Prop
  | collected _ => True
  | s => ∀ name ∈ s.names, IsKnown name

theorem toSetNames {s : MethodSpelling} (strict : ∀ ms, s ≠ collected ms) :
    s.toSet = MethodSet.ofNames s.names := by
  cases s with
  | text t => exact MethodSet.parseNames t
  | texts ts => exact MethodSet.parseAllNames ts
  | known ms => exact MethodSet.knownNames ms
  | collected ms => exact absurd rfl (strict ms)

theorem takenExactly (s : MethodSpelling) : (∃ set, s.toSet = .ok set) ↔ s.Taken := by
  cases s with
  | collected ms => exact ⟨fun _ => trivial, fun _ => ⟨_, rfl⟩⟩
  | text | texts | known =>
    rw [toSetNames (by simp)]
    exact MethodSet.namesAccepted

theorem refusedUnlessTaken {s : MethodSpelling} (refused : ¬ s.Taken) : ∃ e, s.toSet = .error e := by
  cases read : s.toSet with
  | error e => exact ⟨e, rfl⟩
  | ok set => exact absurd ((takenExactly s).mp ⟨set, read⟩) refused

theorem toSetContains {s : MethodSpelling} {set : MethodSet} (read : s.toSet = .ok set)
    (m : Method) : set.contains m = true ↔ m.name ∈ s.names ∧ IsKnown m.name := by
  have taken := (takenExactly s).mp ⟨set, read⟩
  cases s with
  | collected ms =>
    cases read
    exact (MethodSet.collectedContains ms m).trans (and_congr_left' MethodSet.nameListed.symm)
  | text | texts | known =>
    rw [toSetNames (by simp)] at read
    rw [MethodSet.namesContain read]
    exact (and_iff_left_of_imp fun listed => taken _ listed).symm

end MethodSpelling

namespace MethodSet

inductive Step
  | insert (m : Method)
  | spelled (spelling : MethodSpelling)
  | all

def after (s : MethodSet) : Step → MethodSet
  | .insert m => (s.insert m).1
  | .spelled spelling =>
    match spelling.toSet with
    | .ok t => s.union t
    | .error _ => s
  | .all => s.union all

def Step.Adds (m : Method) : Step → Prop
  | insert other => m = other
  | spelled spelling => spelling.Taken ∧ m.name ∈ spelling.names
  | all => True

/- What was done to a set. A set that it was united with has a history of its own. -/
inductive History
  | start
  | step (before : History) (s : Step)
  | union (before other : History)

namespace History

def set : History → MethodSet
  | start => empty
  | step before s => before.set.after s
  | union before other => before.set.union other.set

def steps : History → List Step
  | start => []
  | step before s => before.steps ++ [s]
  | union before other => before.steps ++ other.steps

end History

theorem containsAll (m : Method) : all.contains m = true ↔ IsKnown m.name := by
  have every : ∀ v, all.has v = true := fun v => by cases v <;> decide
  simp only [containsExact, every, and_true, IsKnown, ← Method.verbExact, Method.verb?,
    Verb.ofNameExact]

theorem afterContains (s : MethodSet) (step : Step) (m : Method) :
    (s.after step).contains m = true ↔
      s.contains m = true ∨ IsKnown m.name ∧ step.Adds m := by
  cases step with
  | insert other =>
    rw [after, containsInsert, Step.Adds]
    refine or_congr_right ⟨fun given => ?_, fun given => ?_⟩
    · obtain ⟨rfl, known⟩ := given
      exact ⟨known, rfl⟩
    · obtain ⟨known, rfl⟩ := given
      exact ⟨rfl, known⟩
  | spelled spelling =>
    rw [after, Step.Adds]
    cases read : spelling.toSet with
    | ok t =>
      have taken := (spelling.takenExactly).mp ⟨t, read⟩
      simp only [containsUnion, Bool.or_eq_true, MethodSpelling.toSetContains read, taken, true_and,
        and_comm]
    | error e =>
      have refused : ¬ spelling.Taken := by
        rw [← spelling.takenExactly, read]
        simp
      simp [refused]
  | all => simp only [after, containsUnion, Bool.or_eq_true, containsAll, Step.Adds, and_true]

theorem History.setContains (h : History) (m : Method) :
    h.set.contains m = true ↔ IsKnown m.name ∧ ∃ step ∈ h.steps, step.Adds m := by
  induction h with
  | start => simp [set, steps, containsEmpty]
  | step before s ih =>
    simp only [set, steps, afterContains, ih, List.mem_append, List.mem_singleton, or_and_right,
      exists_or, exists_eq_left, and_or_left]
  | union before other ih ih' =>
    simp only [set, steps, containsUnion, Bool.or_eq_true, ih, ih', List.mem_append, or_and_right,
      exists_or, and_or_left]

theorem insertTaken (s : MethodSet) (m : Method) : (s.insert m).2 = true ↔ IsKnown m.name := by
  have known : IsKnown m.name ↔ m.verb?.isSome = true := by
    simp only [IsKnown, Method.verb?, Option.isSome_iff_exists, Verb.ofNameExact]
  rw [known, insert]
  cases m.verb? <;> simp

/- A set that is read at once is the set of that one step. -/
theorem History.setAlone {spelling : MethodSpelling} {s : MethodSet}
    (read : spelling.toSet = .ok s) : (start.step (.spelled spelling)).set = s := by
  simp only [set, after, read, emptyUnion]

theorem nameMember (s : MethodSet) (m : Method) : m.name ∈ s.names ↔ s.contains m = true := by
  simp only [names, List.mem_map, memVerbs, containsExact, ← Method.verbExact, Method.verb?,
    Verb.ofNameExact]
  exact exists_congr fun v => and_comm

theorem namesSublist (s : MethodSet) : s.names.Sublist (Verb.all.map Verb.name) :=
  List.filter_sublist.map Verb.name

theorem namesNodup (s : MethodSet) : s.names.Nodup :=
  (namesSublist s).nodup (by decide)

theorem placesInOrder : List.range 9 = Verb.all.map fun v => v.index.val := by decide

theorem sizeNames (s : MethodSet) : s.size = s.names.length := by
  rw [size, placesInOrder, List.countP_map, List.countP_eq_length_filter, names, List.length_map]
  rfl

theorem isEmptySize (s : MethodSet) : s.isEmpty = true ↔ s.size = 0 := by
  rw [isEmptyExact, sizeNames, List.length_eq_zero_iff, List.eq_nil_iff_forall_not_mem]
  constructor
  · rintro rfl name
    rw [names, List.mem_map]
    rintro ⟨v, listed, rfl⟩
    rw [memVerbs, hasEmpty] at listed
    cases listed
  · intro nameless
    refine hasExt fun v => ?_
    rw [hasEmpty, Bool.eq_false_iff]
    intro has
    exact nameless v.name (List.mem_map_of_mem (memVerbs.mpr has))

theorem collectVerbs (s : MethodSet) : ofMethods (s.verbs.map Method.ofVerb) = s := by
  refine containsExt fun m => Bool.eq_iff_iff.mpr ?_
  rw [collectedContains, containsExact, List.mem_map]
  constructor
  · rintro ⟨⟨v, listed, rfl⟩, -⟩
    exact ⟨v, rfl, memVerbs.mp listed⟩
  · rintro ⟨v, rfl, has⟩
    exact ⟨⟨v, memVerbs.mpr has, rfl⟩, v, rfl⟩

/- The set as a word of sixteen bits, more than there are methods. -/
def word (s : MethodSet) : BitVec 16 := s.bits.setWidth 16

theorem wordInsert (s : MethodSet) (v : Verb) :
    (s.insertVerb v).word = s.word ||| 1#16 <<< v.index.val := by
  rw [word, insertVerb, BitVec.setWidth_or, word]
  congr 1
  cases v <;> decide

theorem wordUnion (s t : MethodSet) : (s.union t).word = s.word ||| t.word :=
  BitVec.setWidth_or

theorem wordBit (s : MethodSet) (v : Verb) : s.word.getLsbD v.index.val = s.has v := by
  have inside : v.index.val < 16 := Nat.lt_trans v.index.isLt (by decide)
  simp [word, has, inside]

theorem wordBits {s : MethodSet} {i : Nat} :
    s.word.getLsbD i = true ↔ ∃ v : Verb, v.index.val = i ∧ s.has v = true := by
  constructor
  · intro raised
    rw [word, BitVec.getLsbD_setWidth, Bool.and_eq_true] at raised
    have place := List.mem_range.mpr (BitVec.lt_of_getLsbD raised.2)
    rw [placesInOrder, List.mem_map] at place
    obtain ⟨v, -, rfl⟩ := place
    exact ⟨v, rfl, raised.2⟩
  · rintro ⟨v, rfl, has⟩
    rw [wordBit, has]

theorem wordInjective {s t : MethodSet} (same : s.word = t.word) : s = t :=
  hasExt fun v => by rw [← wordBit, same, wordBit]

/- The bits of the known names among the given ones. -/
def raised : List String → BitVec 16
  | [] => 0
  | name :: names =>
    match Verb.ofName? name with
    | some v => raised names ||| 1#16 <<< v.index.val
    | none => raised names

def Step.raised : Step → BitVec 16
  | insert m => MethodSet.raised [m.name]
  | spelled spelling =>
    match spelling.toSet with
    | .ok _ => MethodSet.raised spelling.names
    | .error _ => 0
  | all => MethodSet.raised (Verb.all.map Verb.name)

/- The history of the word, which starts at zero and in which bits are only raised. -/
def History.raised : History → BitVec 16
  | start => 0
  | step before s => before.raised ||| s.raised
  | union before other => before.raised ||| other.raised

theorem shiftedBit {v : Verb} {i : Nat} :
    (1#16 <<< v.index.val).getLsbD i = true ↔ v.index.val = i := by
  have inside : v.index.val < 16 := Nat.lt_trans v.index.isLt (by decide)
  simp only [BitVec.getLsbD_shiftLeft, BitVec.getLsbD_one, Bool.and_eq_true, decide_eq_true_eq,
    Bool.not_eq_true', decide_eq_false_iff_not]
  omega

theorem raisedBit {names : List String} {i : Nat} :
    (raised names).getLsbD i = true ↔ ∃ v : Verb, v.index.val = i ∧ v.name ∈ names := by
  induction names with
  | nil => simp [raised]
  | cons name names ih =>
    rw [raised]
    cases found : Verb.ofName? name with
    | some v =>
      rw [BitVec.getLsbD_or, Bool.or_eq_true, ih, shiftedBit]
      have named : ∀ w : Verb, w.name = name ↔ w = v := fun w => by
        rw [← Verb.ofNameExact, found, Option.some_inj, eq_comm]
      simp only [List.mem_cons, named, and_or_left, exists_or, exists_eq_right, or_comm]
    | none =>
      have unnamed : ∀ w : Verb, w.name ≠ name := fun w same => by
        rw [← Verb.ofNameExact, found] at same
        cases same
      simp only [ih, List.mem_cons, unnamed, false_or]

theorem toSetWord {spelling : MethodSpelling} {s : MethodSet} (read : spelling.toSet = .ok s) :
    s.word = raised spelling.names := by
  refine BitVec.eq_of_getLsbD_eq fun i _ => Bool.eq_iff_iff.mpr ?_
  rw [wordBits, raisedBit]
  refine exists_congr fun v => and_congr_right' ?_
  rw [← containsOfVerb, MethodSpelling.toSetContains read]
  exact and_iff_left ⟨v, rfl⟩

theorem afterWord (s : MethodSet) (step : Step) : (s.after step).word = s.word ||| step.raised := by
  cases step with
  | insert m =>
    simp only [after, insert, Step.raised, raised, Method.verb?]
    cases Verb.ofName? m.name with
    | some v => simp [wordInsert]
    | none => simp
  | spelled spelling =>
    rw [after, Step.raised]
    cases read : spelling.toSet with
    | ok t => simp only [wordUnion, toSetWord read]
    | error e => simp
  | all =>
    have every : all.word = (Step.all).raised := by decide
    rw [after, wordUnion, every]

theorem History.setWord (h : History) : h.set.word = h.raised := by
  induction h with
  | start => decide
  | step before s ih => rw [set, afterWord, ih, raised]
  | union before other ih ih' => rw [set, wordUnion, ih, ih', raised]

theorem onesCounted {w : Nat} (x : BitVec w) (k : Nat) :
    x.cpopNatRec k 0 = (List.range k).countP x.getLsbD := by
  induction k with
  | zero => rfl
  | succ k ih =>
    rw [BitVec.cpopNatRec_succ, BitVec.cpopNatRec_add, ih, List.range_succ, List.countP_append,
      List.countP_singleton]
    cases x.getLsbD k <;> rfl

theorem wordSize (s : MethodSet) : s.word.cpop.toNat = s.size := by
  rw [word, BitVec.toNat_cpop_setWidth_eq_of_le (by decide), BitVec.toNat_cpop, onesCounted, size]

/- The names are those of the members, in the order of all methods, and everything else that is
read from a set agrees with them. -/
structure Agrees (s : MethodSet) : Prop where
  listed : s.names.Sublist (Verb.all.map Verb.name)
  distinct : s.names.Nodup
  members : ∀ m : Method, m.name ∈ s.names ↔ s.contains m = true
  size : s.size = s.names.length
  empty : s.isEmpty = true ↔ s.size = 0
  collected : ofMethods (s.verbs.map Method.ofVerb) = s
  text : s.text = ", ".intercalate s.names
  header : s.headerValue.text = ", ".intercalate s.names

theorem agrees (s : MethodSet) : Agrees s where
  listed := namesSublist s
  distinct := namesNodup s
  members := nameMember s
  size := sizeNames s
  empty := isEmptySize s
  collected := collectVerbs s
  text := rfl
  header := headerValueText s

/- No bit is raised but those of the members. -/
structure Stored (s : MethodSet) : Prop where
  bits : ∀ i, s.word.getLsbD i = true ↔ ∃ v : Verb, v.index.val = i ∧ s.has v = true
  ones : s.word.cpop.toNat = s.size
  zero : s.word = 0 ↔ s.isEmpty = true

theorem stored (s : MethodSet) : Stored s where
  bits := fun _ => wordBits
  ones := wordSize s
  zero := by
    have blank : word empty = 0 := by decide
    rw [isEmptyExact, ← blank]
    exact ⟨wordInjective, congrArg word⟩

/- Every step adds what it names or, where it is refused, nothing; so a method is in the set if
some step named it. -/
theorem historyKept (h other : History) :
    (∀ m, h.set.contains m = true ↔ IsKnown m.name ∧ ∃ s ∈ h.steps, s.Adds m) ∧
      (∀ m, ((h.set.insert m).2 = true ↔ IsKnown m.name) ∧
        (¬ IsKnown m.name → (h.step (.insert m)).set = h.set)) ∧
      (∀ spelling : MethodSpelling, ((∃ s, spelling.toSet = .ok s) ↔ spelling.Taken) ∧
        (¬ spelling.Taken → (h.step (.spelled spelling)).set = h.set) ∧
        ∀ s, spelling.toSet = .ok s → (History.start.step (.spelled spelling)).set = s) ∧
      Agrees h.set ∧
      (h.set = other.set ↔ ∀ m, h.set.contains m = other.set.contains m) ∧
      Stored h.set ∧
      h.set.word = h.raised := by
  refine ⟨h.setContains, fun m => ⟨?_, fun unknown => ?_⟩, fun spelling =>
    ⟨spelling.takenExactly, fun refused => ?_, fun s => History.setAlone⟩, agrees _,
    ⟨fun same m => by rw [same], containsExt⟩, stored _, h.setWord⟩
  · exact insertTaken _ m
  · refine containsExt fun other => Bool.eq_iff_iff.mpr ?_
    rw [History.set, afterContains, Step.Adds]
    refine or_iff_left fun given => ?_
    obtain ⟨known, rfl⟩ := given
    exact unknown known
  · obtain ⟨e, read⟩ := MethodSpelling.refusedUnlessTaken refused
    simp only [History.set, after, read]

example : ((((History.start.step (.spelled (.text "patch| get "))).step
    (.spelled (.texts ["put", "no such"]))).union (.step .start (.insert (.ofVerb .head)))).set).names =
      ["GET", "HEAD", "PATCH"] := by decide +kernel

end MethodSet
end Signpost
