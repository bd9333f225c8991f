import Signpost.Regex.Program

/-! Where the code of a node stands in a program, and where the code of its parts stands
then. -/
namespace Signpost.Regex

def Placed (program : Array Inst) (start : Nat) (code : List Inst) : Prop :=
  ∀ i, i < code.length → program[start + i]? = code[i]?

section
variable {program : Array Inst}

theorem placedHead {start i code} (placed : Placed program start (i :: code)) :
    program[start]? = some i := by
  simpa using placed 0 (by simp)

theorem placedTail {start i code} (placed : Placed program start (i :: code)) :
    Placed program (start + 1) code := by
  intro j bound
  have here := placed (j + 1) (by simpa using bound)
  simpa only [Nat.add_assoc, Nat.add_comm 1, List.getElem?_cons_succ] using here

theorem placedLeft {start code more} (placed : Placed program start (code ++ more)) :
    Placed program start code := by
  intro j bound
  rw [placed j (by simp; omega), List.getElem?_append_left bound]

theorem placedRight {start code more} (placed : Placed program start (code ++ more)) :
    Placed program (start + code.length) more := by
  intro j bound
  rw [Nat.add_assoc, placed (code.length + j) (by simp; omega),
    List.getElem?_append_right (by omega), Nat.add_sub_cancel_left]

theorem copiesSucc (n size : Nat) (code : Nat → List Inst) (start : Nat) :
    copies (n + 1) size code start = code start ++ copies n size code (start + size) := by
  simp only [copies, List.range_succ_eq_map, List.flatMap_cons, List.flatMap_map, Nat.zero_mul,
    Nat.add_zero, Nat.succ_mul]
  congr 2
  funext i
  congr 1
  omega

theorem lastCopy {n size start : Nat} {code : Nat → List Inst}
    (sized : ∀ place, (code place).length = size)
    (placed : Placed program start (copies (n + 1) size code start)) :
    Placed program (start + n * size) (code (start + n * size)) := by
  induction n generalizing start with
  | zero =>
    rw [copiesSucc] at placed
    simpa using placedLeft placed
  | succ n ih =>
    rw [copiesSucc] at placed
    have rest := placedRight placed
    rw [sized] at rest
    have place : start + (n + 1) * size = start + size + n * size := by
      rw [Nat.succ_mul]; omega
    rw [place]
    exact ih rest

theorem placedSeq {a c : Node} {start}
    (placed : Placed program start ((Node.seq a c).code start (start + (Node.seq a c).size))) :
    Placed program start (a.code start (start + a.size)) ∧
      Placed program (start + a.size) (c.code (start + a.size) (start + a.size + c.size)) := by
  simp only [Node.code, Node.size, ← Nat.add_assoc] at placed
  have further := placedRight placed
  rw [Node.codeLength] at further
  exact ⟨placedLeft placed, further⟩

theorem altStop (a c : Node) (start : Nat) :
    start + (Node.alt a c).size = start + 1 + a.size + 1 + c.size := by
  simp only [Node.size]
  omega

theorem placedAlt {a c : Node} {start}
    (placed : Placed program start ((Node.alt a c).code start (start + (Node.alt a c).size))) :
    program[start]? = some (.fork (start + 1) (start + 1 + a.size + 1)) ∧
      Placed program (start + 1) (a.code (start + 1) (start + 1 + a.size)) ∧
      program[start + 1 + a.size]? = some (.jump (start + 1 + a.size + 1 + c.size)) ∧
      Placed program (start + 1 + a.size + 1)
        (c.code (start + 1 + a.size + 1) (start + 1 + a.size + 1 + c.size)) := by
  have middle : start + a.size + 1 = start + 1 + a.size := by omega
  rw [altStop] at placed
  simp only [Node.code, middle] at placed
  have inner := placedTail placed
  have jump := placedRight inner
  rw [Node.codeLength] at jump
  exact ⟨placedHead placed, placedLeft inner, placedHead jump, placedTail jump⟩

theorem groupStop (index : Nat) (a : Node) (start : Nat) :
    start + (Node.group (some index) a).size = start + 1 + a.size + 1 := by
  simp only [Node.size]
  omega

theorem placedGroup {index : Nat} {a : Node} {start}
    (placed : Placed program start
      ((Node.group (some index) a).code start (start + (Node.group (some index) a).size))) :
    program[start]? = some (.save (2 * index)) ∧
      Placed program (start + 1) (a.code (start + 1) (start + 1 + a.size)) ∧
      program[start + 1 + a.size]? = some (.save (2 * index + 1)) := by
  rw [groupStop] at placed
  simp only [Node.code, Nat.add_sub_cancel] at placed
  have inner := placedTail placed
  have close := placedRight inner
  rw [Node.codeLength] at close
  exact ⟨placedHead placed, placedLeft inner, placedHead close⟩

/- The required rounds of a repetition, one behind the other. -/
def required (a : Node) (count start : Nat) : List Inst :=
  copies count a.size (fun place => a.code place (place + a.size)) start

/- The rounds that may be left out. Every one of them has its own way to the end. -/
def optional (a : Node) (greedy : Bool) (count start stop : Nat) : List Inst :=
  copies count (a.size + 1) (fun place => Node.preferred greedy (place + 1) stop ::
    a.code (place + 1) (place + 1 + a.size)) start

theorem requiredSucc {a : Node} {count start}
    (placed : Placed program start (required a (count + 1) start)) :
    Placed program start (a.code start (start + a.size)) ∧
      Placed program (start + a.size) (required a count (start + a.size)) := by
  rw [required, copiesSucc] at placed
  have further := placedRight placed
  rw [Node.codeLength] at further
  exact ⟨placedLeft placed, further⟩

theorem optionalSucc {a : Node} {greedy count start stop}
    (placed : Placed program start (optional a greedy (count + 1) start stop)) :
    program[start]? = some (Node.preferred greedy (start + 1) stop) ∧
      Placed program (start + 1) (a.code (start + 1) (start + 1 + a.size)) ∧
      Placed program (start + 1 + a.size) (optional a greedy count (start + 1 + a.size) stop) := by
  have place : start + (a.size + 1) = start + 1 + a.size := by omega
  rw [optional, copiesSucc] at placed
  have further := placedRight placed
  rw [List.length_cons, Node.codeLength, place] at further
  exact ⟨placedHead (placedLeft placed), placedTail (placedLeft placed), further⟩

theorem boundedStop (min max : Nat) (greedy : Bool) (a : Node) (start : Nat) :
    start + (Node.repeated min (some max) greedy a).size =
      start + min * a.size + (max - min) * (a.size + 1) := by
  simp only [Node.size, Nat.add_assoc]

theorem placedBounded {min max greedy} {a : Node} {start}
    (placed : Placed program start ((Node.repeated min (some max) greedy a).code start
      (start + (Node.repeated min (some max) greedy a).size))) :
    Placed program start (required a min start) ∧
      Placed program (start + min * a.size) (optional a greedy (max - min) (start + min * a.size)
        (start + min * a.size + (max - min) * (a.size + 1))) := by
  rw [boundedStop] at placed
  simp only [Node.code] at placed
  have further := placedRight placed
  rw [copiesLength _ _ _ _ fun place => Node.codeLength a _ _] at further
  exact ⟨placedLeft placed, further⟩

theorem starStop (greedy : Bool) (a : Node) (start : Nat) :
    start + (Node.repeated 0 none greedy a).size = start + 1 + a.size + 1 := by
  simp only [Node.size]
  omega

theorem placedStar {greedy} {a : Node} {start}
    (placed : Placed program start ((Node.repeated 0 none greedy a).code start
      (start + (Node.repeated 0 none greedy a).size))) :
    program[start]? = some (Node.preferred greedy (start + 1) (start + 1 + a.size + 1)) ∧
      Placed program (start + 1) (a.code (start + 1) (start + 1 + a.size)) ∧
      program[start + 1 + a.size]? =
        some (Node.preferred greedy (start + 1) (start + 1 + a.size + 1)) := by
  rw [starStop] at placed
  simp only [Node.code, Nat.add_sub_cancel] at placed
  have inner := placedTail placed
  have again := placedRight inner
  rw [Node.codeLength] at again
  exact ⟨placedHead placed, placedLeft inner, placedHead again⟩

theorem lastRound (a : Node) (min start : Nat) :
    start + min * a.size + a.size = start + (min + 1) * a.size := by
  rw [Nat.succ_mul, Nat.add_assoc]

theorem plusStop (min : Nat) (greedy : Bool) (a : Node) (start : Nat) :
    start + (Node.repeated (min + 1) none greedy a).size = start + (min + 1) * a.size + 1 := by
  simp only [Node.size, Nat.add_assoc]

theorem placedPlus {min greedy} {a : Node} {start}
    (placed : Placed program start ((Node.repeated (min + 1) none greedy a).code start
      (start + (Node.repeated (min + 1) none greedy a).size))) :
    Placed program start (required a (min + 1) start) ∧
      Placed program (start + min * a.size)
        (a.code (start + min * a.size) (start + (min + 1) * a.size)) ∧
      program[start + (min + 1) * a.size]? =
        some (Node.preferred greedy (start + min * a.size) (start + (min + 1) * a.size + 1)) := by
  rw [plusStop] at placed
  simp only [Node.code] at placed
  have fork := placedRight placed
  rw [copiesLength _ _ _ _ fun place => Node.codeLength a _ _] at fork
  have body := lastCopy (fun place => Node.codeLength a _ _) (placedLeft placed)
  rw [lastRound] at body
  exact ⟨placedLeft placed, body, placedHead fork⟩

end

end Signpost.Regex
