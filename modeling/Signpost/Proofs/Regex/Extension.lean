import Signpost.Proofs.Regex.Outcomes
import Signpost.Proofs.Regex.Sequence

/-! The same node on a text and on a longer one. If it does not look around, its outcomes on
the shorter text are those on the longer one that do not go past its end, in their order. -/
namespace Signpost.Regex

namespace Node

/- Nothing is asked of a place but which character comes next. -/
def isBlind : Node → Bool
  | empty | set _ => true
  | look _ => false
  | seq a b | alt a b => a.isBlind && b.isBlind
  | group _ a | repeated _ _ _ a => a.isBlind

def outcomesAll (text : Array Char) : List Node → Point → List Point
  | [], s => [s]
  | a :: rest, s => (a.outcomes text s).flatMap (outcomesAll text rest)

theorem chainOutcomes (text : Array Char) (nodes : List Node) (s : Point) :
    (chain nodes).outcomes text s = outcomesAll text nodes s := by
  induction nodes generalizing s with
  | nil => rfl
  | cons a rest ih =>
    cases rest with
    | nil => exact (List.flatMap_singleton' _).symm
    | cons b rest =>
      exact List.flatMap_congr fun t _ => ih t

theorem chainSolid {nodes : List Node} (solid : ∀ a ∈ nodes, a.isSolid = true) :
    (chain nodes).isSolid = true := by
  induction nodes with
  | nil => rfl
  | cons a rest ih =>
    rw [List.forall_mem_cons] at solid
    cases rest with
    | nil => exact solid.1
    | cons b rest => exact (Bool.and_eq_true _ _).mpr ⟨solid.1, ih solid.2⟩

theorem outcomesAllAppend (text : Array Char) (first second : List Node) (s : Point) :
    outcomesAll text (first ++ second) s =
      (outcomesAll text first s).flatMap (outcomesAll text second) := by
  induction first generalizing s with
  | nil => exact (List.flatMap_singleton _ _).symm
  | cons a rest ih =>
    rw [List.cons_append, outcomesAll, outcomesAll, List.flatMap_assoc]
    exact List.flatMap_congr fun t _ => ih t

end Node

/- The second way is the first one, kept from going past a place. -/
structure Clips (size : Nat) (long short : Point → List Point) : Prop where
  clip : ∀ s, s.pos ≤ size → (long s).filter (·.pos ≤ size) = short s
  onward : ∀ s, ∀ t ∈ long s, s.pos ≤ t.pos

section
variable {size : Nat} {long short long' short' : Point → List Point}

theorem clipsHere : Clips size (fun s => [s]) fun s => [s] where
  clip := fun s inside => by simp [inside]
  onward := fun s t member => Nat.le_of_eq (congrArg Point.pos (List.mem_singleton.mp member).symm)

theorem clipsBeyond (clips : Clips size long short) {s : Point} (beyond : size < s.pos) :
    (long s).filter (·.pos ≤ size) = [] := by
  refine List.filter_eq_nil_iff.mpr fun t member => ?_
  have := clips.onward s t member
  simp only [decide_eq_true_eq]
  omega

theorem clipsFlat (clips : Clips size long short) (ts : List Point) :
    (ts.flatMap long).filter (·.pos ≤ size) = (ts.filter (·.pos ≤ size)).flatMap short := by
  induction ts with
  | nil => rfl
  | cons t ts ih =>
    rw [List.flatMap_cons, List.filter_append, ih]
    by_cases inside : t.pos ≤ size
    · rw [clips.clip t inside, List.filter_cons_of_pos (by simpa using inside), List.flatMap_cons]
    · rw [clipsBeyond clips (by omega), List.filter_cons_of_neg (by simpa using inside),
        List.nil_append]

theorem clipsTrans (first : Clips size long short) (second : Clips size long' short') :
    Clips size (fun s => (long s).flatMap long') fun s => (short s).flatMap short' where
  clip := fun s inside => by rw [clipsFlat second, first.clip s inside]
  onward := by
    intro s t member
    obtain ⟨u, inside, member⟩ := List.mem_flatMap.mp member
    exact Nat.le_trans (first.onward s u inside) (second.onward u t member)

theorem clipsEither (first : Clips size long short) (second : Clips size long' short') :
    Clips size (fun s => long s ++ long' s) fun s => short s ++ short' s where
  clip := fun s inside => by
    rw [List.filter_append, first.clip s inside, second.clip s inside]
  onward := fun s t member => (List.mem_append.mp member).elim (first.onward s t) (second.onward s t)

theorem clipsRounds (clips : Clips size long short) (n : Nat) :
    Clips size (Node.afterRounds long n) (Node.afterRounds short n) := by
  induction n with
  | zero => exact clipsHere
  | succ n ih => exact clipsTrans clips ih

theorem clipsOptions (clips : Clips size long short) (greedy : Bool) (n : Nat) :
    Clips size (Node.afterOptions long greedy n) (Node.afterOptions short greedy n) := by
  induction n with
  | zero => exact clipsHere
  | succ n ih =>
    cases greedy with
    | true => exact clipsEither (clipsTrans clips ih) clipsHere
    | false => exact clipsEither clipsHere (clipsTrans clips ih)

end

/- More rounds than there are characters make no difference. -/
theorem optionsEnough {way : Point → List Point} {greedy : Bool} {size : Nat}
    (takes : ∀ s, s.pos ≤ size → ∀ t ∈ way s, s.pos < t.pos ∧ t.pos ≤ size) {m n : Nat} {s : Point}
    (inside : s.pos ≤ size) (enough : size ≤ s.pos + m) (more : m ≤ n) :
    Node.afterOptions way greedy n s = Node.afterOptions way greedy m s := by
  induction m generalizing n s with
  | zero =>
    have none : way s = [] := by
      refine List.eq_nil_iff_forall_not_mem.mpr fun t member => ?_
      have := takes s inside t member
      omega
    cases n with
    | zero => rfl
    | succ n => cases greedy <;> simp [Node.afterOptions, none]
  | succ m ih =>
    obtain ⟨n, rfl⟩ : ∃ k, n = k + 1 := ⟨n - 1, by omega⟩
    have further : (way s).flatMap (Node.afterOptions way greedy n) =
        (way s).flatMap (Node.afterOptions way greedy m) := by
      refine List.flatMap_congr fun t member => ?_
      have := takes s inside t member
      exact ih this.2 (by omega) (by omega)
    rw [Node.afterOptions, Node.afterOptions, further]

section
variable (text more : Array Char)

/- One character more is read behind the end of the shorter text, and left out again. -/
theorem setClipped (c : CharSet) :
    Clips text.size ((Node.set c).outcomes (text ++ more)) ((Node.set c).outcomes text) := by
  refine ⟨fun s inside => ?_, fun s t member => matchAdvances (outcomesMatch member)⟩
  rcases Nat.lt_or_eq_of_le inside with before | behind
  · rw [Node.outcomes, Node.outcomes, Array.getElem?_append_left before,
      Array.getElem?_eq_getElem before]
    by_cases taken : c.contains text[s.pos] = true
    · simpa [taken, Point.advance] using Nat.succ_le_of_lt before
    · simp [taken]
  · have none : text[s.pos]? = none := Array.getElem?_eq_none (Nat.le_of_eq behind.symm)
    rw [Node.outcomes, Node.outcomes, none]
    refine List.filter_eq_nil_iff.mpr fun t member => ?_
    have further := matchTakesSome (a := .set c) rfl (outcomesMatch member)
    simp only [decide_eq_true_eq]
    omega

theorem loopClipped {min : Nat} {greedy : Bool} {a : Node} (filled : a.takesSome = true)
    (clips : Clips text.size (a.outcomes (text ++ more)) (a.outcomes text)) :
    Clips text.size ((Node.repeated min none greedy a).outcomes (text ++ more))
      ((Node.repeated min none greedy a).outcomes text) := by
  have whole := clipsTrans (clipsRounds clips min) (clipsOptions clips greedy (text ++ more).size)
  refine ⟨fun s inside => (whole.clip s inside).trans ?_, whole.onward⟩
  refine List.flatMap_congr fun t member => ?_
  refine optionsEnough (fun s inside t member => ?_) (afterRoundsInside inside member) (by omega)
    (by simp)
  exact ⟨matchTakesSome filled (outcomesMatch member), outcomesInside inside member⟩

theorem outcomesClipped {a : Node} (blind : a.isBlind = true) (solid : a.isSolid = true) :
    Clips text.size (a.outcomes (text ++ more)) (a.outcomes text) := by
  induction a with
  | empty => exact clipsHere
  | set c => exact setClipped text more c
  | look l => cases blind
  | seq a c iha ihc =>
    obtain ⟨blind, blind'⟩ := (Bool.and_eq_true _ _).mp blind
    obtain ⟨solid, solid'⟩ := (Bool.and_eq_true _ _).mp solid
    exact clipsTrans (iha blind solid) (ihc blind' solid')
  | alt a c iha ihc =>
    obtain ⟨blind, blind'⟩ := (Bool.and_eq_true _ _).mp blind
    obtain ⟨solid, solid'⟩ := (Bool.and_eq_true _ _).mp solid
    exact clipsEither (iha blind solid) (ihc blind' solid')
  | group index a ih =>
    cases index with
    | none => exact ih blind solid
    | some index =>
      have clips := ih blind solid
      refine ⟨fun s inside => ?_, fun s t member => matchAdvances (outcomesMatch member)⟩
      rw [Node.outcomes, Node.outcomes, List.filter_map, ← clips.clip (s.save (2 * index)) inside]
      rfl
  | repeated min max greedy a ih =>
    cases max with
    | some max =>
      have clips := ih blind solid
      exact clipsTrans (clipsRounds clips min) (clipsOptions clips greedy (max - min))
    | none =>
      obtain ⟨solid, filled⟩ := (Bool.and_eq_true _ _).mp solid
      exact loopClipped text more filled (ih blind solid)

theorem allClipped {nodes : List Node} (blind : ∀ a ∈ nodes, a.isBlind = true)
    (solid : ∀ a ∈ nodes, a.isSolid = true) :
    Clips text.size (Node.outcomesAll (text ++ more) nodes) (Node.outcomesAll text nodes) := by
  induction nodes with
  | nil => exact clipsHere
  | cons a rest ih =>
    rw [List.forall_mem_cons] at blind solid
    exact clipsTrans (outcomesClipped text more blind.1 solid.1) (ih blind.2 solid.2)

end

end Signpost.Regex
