import Signpost.Proofs.Regex.Match
import Signpost.Proofs.Regex.Placement
import Signpost.Proofs.Regex.Search

/-! The code of a node runs from its start to its stop exactly along the matches of the
node, whatever program it is placed in. -/
namespace Signpost.Regex

section
variable {program : Array Inst} {text : Array Char}

theorem nextSet {a : CharSet} {s : Point} {pc start : Nat} {t : Thread} :
    t ∈ (Inst.set a).next text (s.thread pc start) ↔
      ∃ c, text[s.pos]? = some c ∧ a.contains c = true ∧ t = s.advance.thread (pc + 1) start := by
  simp only [Inst.next, Point.thread, Point.advance]
  split
  next c found =>
    rw [found]
    split
    next inside => simp [inside]
    next inside => simp [inside]
  next none => rw [none]; simp

theorem nextLook {l : Look} {s : Point} {pc start : Nat} {t : Thread} :
    t ∈ (Inst.look l).next text (s.thread pc start) ↔
      l.holds text s.pos = true ∧ t = s.thread (pc + 1) start := by
  simp only [Inst.next, Point.thread]
  by_cases holds : l.holds text s.pos = true
  · simp [holds]
  · simp [holds]

theorem nextSave {slot : Nat} {s : Point} {pc start : Nat} {t : Thread} :
    t ∈ (Inst.save slot).next text (s.thread pc start) ↔ t = (s.save slot).thread (pc + 1) start := by
  simp [Inst.next, Point.thread, Point.save]

theorem nextJump {target : Nat} {s : Point} {pc start : Nat} {t : Thread} :
    t ∈ (Inst.jump target).next text (s.thread pc start) ↔ t = s.thread target start := by
  simp [Inst.next, Point.thread]

theorem nextFork {first second : Nat} {s : Point} {pc start : Nat} {t : Thread} :
    t ∈ (Inst.fork first second).next text (s.thread pc start) ↔
      t = s.thread first start ∨ t = s.thread second start := by
  simp [Inst.next, Point.thread]

theorem nextPreferred {greedy : Bool} {stay leave : Nat} {s : Point} {pc start : Nat} {t : Thread} :
    t ∈ (Node.preferred greedy stay leave).next text (s.thread pc start) ↔
      t = s.thread stay start ∨ t = s.thread leave start := by
  cases greedy
  · simp only [Node.preferred, Bool.false_eq_true, if_false, nextFork]
    exact Or.comm
  · simp only [Node.preferred, if_true, nextFork]

theorem pathStep {n : Nat} {t v : Thread} {i : Inst} (path : Path program text n t v)
    (found : program[t.pc]? = some i) (away : v.pc ≠ t.pc) :
    ∃ m u, n = m + 1 ∧ u ∈ i.next text t ∧ Path program text m u v := by
  cases path with
  | here => exact absurd rfl away
  | step at_t next rest =>
    cases Option.some.inj (found.symm.trans at_t)
    exact ⟨_, _, rfl, next, rest⟩

/- Whoever enters the code of a node and is found outside it has matched the node and left
by its stop. -/
def Leaves (program : Array Inst) (text : Array Char) (a : Node) : Prop :=
  ∀ {start n b s v}, Placed program start (a.code start (start + a.size)) →
    Path program text n (s.thread start b) v → (v.pc < start ∨ start + a.size ≤ v.pc) →
    ∃ m u, m ≤ n ∧ a.Match text s u ∧ Path program text m (u.thread (start + a.size) b) v

theorem requiredLeave {a : Node} (body : Leaves program text a) (count : Nat) {start n b s v}
    (placed : Placed program start (required a count start))
    (path : Path program text n (s.thread start b) v)
    (outside : v.pc < start ∨ start + count * a.size ≤ v.pc) :
    ∃ m u, m ≤ n ∧ Rounds (a.Match text) count s u ∧
      Path program text m (u.thread (start + count * a.size) b) v := by
  induction count generalizing start n s with
  | zero => exact ⟨n, s, Nat.le_refl n, rfl, by simpa using path⟩
  | succ count ih =>
    obtain ⟨here, further⟩ := requiredSucc placed
    have stop : start + a.size + count * a.size = start + (count + 1) * a.size := by
      rw [Nat.succ_mul]; omega
    obtain ⟨m, u, less, first, rest⟩ := body here path (by omega)
    obtain ⟨k, w, fewer, more, last⟩ := ih further rest (by omega)
    rw [stop] at last
    exact ⟨k, w, by omega, ⟨u, first, more⟩, last⟩

theorem optionalLeave {a : Node} (body : Leaves program text a) {greedy : Bool} {stop : Nat}
    (count : Nat) {start n b s v} (ends : start + count * (a.size + 1) = stop)
    (placed : Placed program start (optional a greedy count start stop))
    (path : Path program text n (s.thread start b) v)
    (outside : v.pc < start ∨ stop ≤ v.pc) :
    ∃ m u k, m ≤ n ∧ k ≤ count ∧ Rounds (a.Match text) k s u ∧
      Path program text m (u.thread stop b) v := by
  induction count generalizing start n s with
  | zero =>
    have same : start = stop := by simpa using ends
    subst same
    exact ⟨n, s, 0, Nat.le_refl n, Nat.le_refl 0, rfl, path⟩
  | succ count ih =>
    obtain ⟨fork, here, further⟩ := optionalSucc placed
    rw [Nat.succ_mul] at ends
    obtain ⟨m, u, steps, next, rest⟩ := pathStep path fork (by simp only [Point.thread]; omega)
    rcases nextPreferred.mp next with rfl | rfl
    · obtain ⟨m', u, less, first, rest⟩ := body here rest (by omega)
      obtain ⟨k, w, rounds, fewer, bound, more, last⟩ := ih (by omega) further rest (by omega)
      exact ⟨k, w, rounds + 1, by omega, by omega, ⟨u, first, more⟩, last⟩
    · exact ⟨m, s, 0, by omega, by omega, rfl, rest⟩

/- The way back to a body stands behind it and is taken any number of times. -/
theorem loopLeave {a : Node} (body : Leaves program text a) {greedy : Bool}
    {stay back leave : Nat} (ends : stay + a.size = back)
    (placed : Placed program stay (a.code stay back))
    (found : program[back]? = some (Node.preferred greedy stay leave)) {n b s v}
    (path : Path program text n (s.thread back b) v) (outside : v.pc < stay ∨ back < v.pc) :
    ∃ m u k, m ≤ n ∧ Rounds (a.Match text) k s u ∧ Path program text m (u.thread leave b) v := by
  induction n using Nat.strongRecOn generalizing s with
  | ind n ih =>
    obtain ⟨m, t, steps, next, rest⟩ := pathStep path found (by simp only [Point.thread]; omega)
    rcases nextPreferred.mp next with rfl | rfl
    · subst ends
      obtain ⟨m', u, less, first, rest⟩ := body placed rest (by omega)
      obtain ⟨k, w, rounds, fewer, more, last⟩ := ih m' (by omega) rest
      exact ⟨k, w, rounds + 1, by omega, ⟨u, first, more⟩, last⟩
    · exact ⟨m, s, 0, by omega, rfl, rest⟩

theorem seqLeaves {a c : Node} (first : Leaves program text a) (second : Leaves program text c) :
    Leaves program text (.seq a c) := by
  intro start n b s v placed path outside
  obtain ⟨here, further⟩ := placedSeq placed
  simp only [Node.size, ← Nat.add_assoc] at outside ⊢
  obtain ⟨m, u, less, taken, rest⟩ := first here path (by omega)
  obtain ⟨k, w, fewer, more, last⟩ := second further rest (by omega)
  exact ⟨k, w, by omega, ⟨u, taken, more⟩, last⟩

theorem altLeaves {a c : Node} (first : Leaves program text a) (second : Leaves program text c) :
    Leaves program text (.alt a c) := by
  intro start n b s v placed path outside
  obtain ⟨fork, left, jump, right⟩ := placedAlt placed
  rw [altStop] at outside ⊢
  obtain ⟨m, t, steps, next, rest⟩ := pathStep path fork (by simp only [Point.thread]; omega)
  rcases nextFork.mp next with rfl | rfl
  · obtain ⟨m, u, less, taken, rest⟩ := first left rest (by omega)
    obtain ⟨k, w, fewer, next, last⟩ := pathStep rest jump (by simp only [Point.thread]; omega)
    cases nextJump.mp next
    exact ⟨k, u, by omega, .inl taken, last⟩
  · obtain ⟨k, w, fewer, taken, last⟩ := second right rest (by omega)
    exact ⟨k, w, by omega, .inr taken, last⟩

theorem groupLeaves {index : Nat} {a : Node} (body : Leaves program text a) :
    Leaves program text (.group (some index) a) := by
  intro start n b s v placed path outside
  obtain ⟨opening, inner, closing⟩ := placedGroup placed
  rw [groupStop] at outside ⊢
  obtain ⟨m, t, steps, next, rest⟩ := pathStep path opening (by simp only [Point.thread]; omega)
  cases nextSave.mp next
  obtain ⟨m', u, less, taken, rest⟩ := body inner rest (by omega)
  obtain ⟨k, w, fewer, next, last⟩ := pathStep rest closing (by simp only [Point.thread]; omega)
  cases nextSave.mp next
  exact ⟨k, _, by omega, ⟨u, taken, rfl⟩, last⟩

theorem boundedLeaves {min max : Nat} {greedy : Bool} {a : Node} (body : Leaves program text a) :
    Leaves program text (.repeated min (some max) greedy a) := by
  intro start n b s v placed path outside
  obtain ⟨must, may⟩ := placedBounded placed
  rw [boundedStop] at outside ⊢
  obtain ⟨m, u, less, first, rest⟩ := requiredLeave body min must path (by omega)
  obtain ⟨k, w, rounds, fewer, bound, second, last⟩ :=
    optionalLeave body (max - min) rfl may rest (by omega)
  refine ⟨k, w, by omega, ⟨min + rounds, by omega, ?_, roundsAppend first second⟩, last⟩
  intro m same
  cases same
  omega

theorem starLeaves {greedy : Bool} {a : Node} (body : Leaves program text a) :
    Leaves program text (.repeated 0 none greedy a) := by
  intro start n b s v placed path outside
  obtain ⟨fork, inner, again⟩ := placedStar placed
  rw [starStop] at outside ⊢
  obtain ⟨m, t, steps, next, rest⟩ := pathStep path fork (by simp only [Point.thread]; omega)
  rcases nextPreferred.mp next with rfl | rfl
  · obtain ⟨m', u, less, first, rest⟩ := body inner rest (by omega)
    obtain ⟨k, w, rounds, fewer, more, last⟩ := loopLeave body rfl inner again rest (by omega)
    exact ⟨k, w, by omega, ⟨rounds + 1, by omega, by simp, u, first, more⟩, last⟩
  · exact ⟨m, s, by omega, ⟨0, by omega, by simp, rfl⟩, rest⟩

theorem plusLeaves {min : Nat} {greedy : Bool} {a : Node} (body : Leaves program text a) :
    Leaves program text (.repeated (min + 1) none greedy a) := by
  intro start n b s v placed path outside
  obtain ⟨must, inner, again⟩ := placedPlus placed
  rw [plusStop] at outside ⊢
  have back := lastRound a min start
  obtain ⟨m, u, less, first, rest⟩ := requiredLeave body (min + 1) must path (by omega)
  obtain ⟨k, w, rounds, fewer, more, last⟩ := loopLeave body back inner again rest (by omega)
  exact ⟨k, w, by omega, ⟨min + 1 + rounds, by omega, by simp, roundsAppend first more⟩, last⟩

theorem codeLeaves (a : Node) : Leaves program text a := by
  induction a with
  | empty =>
    intro start n b s v placed path outside
    exact ⟨n, s, Nat.le_refl n, rfl, path⟩
  | set a =>
    intro start n b s v placed path outside
    simp only [Node.size] at outside
    obtain ⟨m, t, steps, next, rest⟩ := pathStep path (placedHead placed) (by
      simp only [Point.thread]; omega)
    obtain ⟨c, found, inside, rfl⟩ := nextSet.mp next
    exact ⟨m, _, by omega, ⟨c, found, inside, rfl⟩, rest⟩
  | look l =>
    intro start n b s v placed path outside
    simp only [Node.size] at outside
    obtain ⟨m, t, steps, next, rest⟩ := pathStep path (placedHead placed) (by
      simp only [Point.thread]; omega)
    obtain ⟨holds, rfl⟩ := nextLook.mp next
    exact ⟨m, s, by omega, ⟨holds, rfl⟩, rest⟩
  | seq a c iha ihc => exact seqLeaves iha ihc
  | alt a c iha ihc => exact altLeaves iha ihc
  | group index a ih =>
    cases index with
    | none =>
      intro start n b s v placed path outside
      exact ih placed path outside
    | some index => exact groupLeaves ih
  | repeated min max greedy a ih =>
    cases max with
    | some max => exact boundedLeaves ih
    | none =>
      cases min with
      | zero => exact starLeaves ih
      | succ min => exact plusLeaves ih

/- The converse: what a node matches can be walked through its code. -/
def Reaches (program : Array Inst) (text : Array Char) (a : Node) : Prop :=
  ∀ {start b s t}, Placed program start (a.code start (start + a.size)) → a.Match text s t →
    ∃ n, Path program text n (s.thread start b) (t.thread (start + a.size) b)

theorem requiredReach {a : Node} (body : Reaches program text a) (count : Nat) {start b s t}
    (placed : Placed program start (required a count start))
    (rounds : Rounds (a.Match text) count s t) :
    ∃ n, Path program text n (s.thread start b) (t.thread (start + count * a.size) b) := by
  induction count generalizing start s with
  | zero =>
    have same : t = s := rounds
    subst same
    exact ⟨0, by simpa using .here _⟩
  | succ count ih =>
    obtain ⟨u, first, more⟩ := rounds
    obtain ⟨here, further⟩ := requiredSucc placed
    obtain ⟨m, one⟩ := body here first
    obtain ⟨n, rest⟩ := ih further more
    have stop : start + (count + 1) * a.size = start + a.size + count * a.size := by
      rw [Nat.succ_mul]; omega
    rw [stop]
    exact ⟨m + n, one.append rest⟩

theorem optionalReach {a : Node} (body : Reaches program text a) {greedy : Bool} {stop : Nat}
    (count : Nat) {start b s t k} (ends : start + count * (a.size + 1) = stop)
    (placed : Placed program start (optional a greedy count start stop))
    (bound : k ≤ count) (rounds : Rounds (a.Match text) k s t) :
    ∃ n, Path program text n (s.thread start b) (t.thread stop b) := by
  induction count generalizing start s k with
  | zero =>
    have none : k = 0 := by omega
    subst none
    have same : t = s := rounds
    subst same
    exact ⟨0, by simpa [← ends] using .here _⟩
  | succ count ih =>
    obtain ⟨fork, here, further⟩ := optionalSucc placed
    rw [Nat.succ_mul] at ends
    cases k with
    | zero =>
      have same : t = s := rounds
      subst same
      exact ⟨1, .one fork (nextPreferred.mpr (.inr rfl))⟩
    | succ k =>
      obtain ⟨u, first, more⟩ := rounds
      obtain ⟨m, one⟩ := body (b := b) here first
      obtain ⟨n, rest⟩ := ih (by omega) further (by omega) more
      exact ⟨m + n + 1, .step fork (nextPreferred.mpr (.inl rfl)) (one.append rest)⟩

theorem loopReach {a : Node} (body : Reaches program text a) {greedy : Bool}
    {stay back leave : Nat} (ends : stay + a.size = back)
    (placed : Placed program stay (a.code stay back))
    (found : program[back]? = some (Node.preferred greedy stay leave)) {b s t k}
    (rounds : Rounds (a.Match text) k s t) :
    ∃ n, Path program text n (s.thread back b) (t.thread leave b) := by
  induction k generalizing s with
  | zero =>
    have same : t = s := rounds
    subst same
    exact ⟨1, .one found (nextPreferred.mpr (.inr rfl))⟩
  | succ k ih =>
    obtain ⟨u, first, more⟩ := rounds
    subst ends
    obtain ⟨m, here⟩ := body (b := b) placed first
    obtain ⟨n, rest⟩ := ih more
    exact ⟨m + n + 1, .step found (nextPreferred.mpr (.inl rfl)) (here.append rest)⟩

theorem seqReaches {a c : Node} (first : Reaches program text a)
    (second : Reaches program text c) : Reaches program text (.seq a c) := by
  intro start b s t placed both
  obtain ⟨u, taken, more⟩ := both
  obtain ⟨here, further⟩ := placedSeq placed
  simp only [Node.size, ← Nat.add_assoc]
  obtain ⟨m, one⟩ := first here taken
  obtain ⟨n, rest⟩ := second further more
  exact ⟨m + n, one.append rest⟩

theorem altReaches {a c : Node} (first : Reaches program text a)
    (second : Reaches program text c) : Reaches program text (.alt a c) := by
  intro start b s t placed one
  obtain ⟨fork, left, jump, right⟩ := placedAlt placed
  rw [altStop]
  rcases one with taken | taken
  · obtain ⟨m, here⟩ := first (b := b) left taken
    exact ⟨m + 1 + 1, .step fork (nextFork.mpr (.inl rfl))
      (here.append (.one jump (nextJump.mpr rfl)))⟩
  · obtain ⟨n, rest⟩ := second (b := b) right taken
    exact ⟨n + 1, .step fork (nextFork.mpr (.inr rfl)) rest⟩

theorem groupReaches {index : Nat} {a : Node} (body : Reaches program text a) :
    Reaches program text (.group (some index) a) := by
  intro start b s t placed saved
  obtain ⟨opening, inner, closing⟩ := placedGroup placed
  rw [groupStop]
  obtain ⟨u, taken, rfl⟩ := saved
  obtain ⟨m, here⟩ := body (b := b) inner taken
  exact ⟨m + 1 + 1, .step opening (nextSave.mpr rfl)
    (here.append (.one closing (nextSave.mpr rfl)))⟩

theorem boundedReaches {min max : Nat} {greedy : Bool} {a : Node}
    (body : Reaches program text a) :
    Reaches program text (.repeated min (some max) greedy a) := by
  intro start b s t placed taken
  obtain ⟨n, least, most, rounds⟩ := taken
  have bound := most max rfl
  obtain ⟨must, may⟩ := placedBounded placed
  rw [boundedStop]
  obtain ⟨k, rfl⟩ := Nat.exists_eq_add_of_le least
  obtain ⟨u, first, second⟩ := roundsSplit min rounds
  obtain ⟨m, here⟩ := requiredReach body min (b := b) must first
  obtain ⟨n, rest⟩ := optionalReach body (max - min) (b := b) rfl may (by omega) second
  exact ⟨m + n, here.append rest⟩

theorem starReaches {greedy : Bool} {a : Node} (body : Reaches program text a) :
    Reaches program text (.repeated 0 none greedy a) := by
  intro start b s t placed taken
  obtain ⟨n, least, most, rounds⟩ := taken
  obtain ⟨fork, inner, again⟩ := placedStar placed
  rw [starStop]
  cases n with
  | zero =>
    have same : t = s := rounds
    subst same
    exact ⟨1, .one fork (nextPreferred.mpr (.inr rfl))⟩
  | succ n =>
    obtain ⟨u, first, more⟩ := rounds
    obtain ⟨m, here⟩ := body (b := b) inner first
    obtain ⟨k, rest⟩ := loopReach body rfl inner again more
    exact ⟨m + k + 1, .step fork (nextPreferred.mpr (.inl rfl)) (here.append rest)⟩

theorem plusReaches {min : Nat} {greedy : Bool} {a : Node} (body : Reaches program text a) :
    Reaches program text (.repeated (min + 1) none greedy a) := by
  intro start b s t placed taken
  obtain ⟨n, least, most, rounds⟩ := taken
  obtain ⟨must, inner, again⟩ := placedPlus placed
  rw [plusStop]
  obtain ⟨k, rfl⟩ := Nat.exists_eq_add_of_le least
  obtain ⟨u, first, more⟩ := roundsSplit (min + 1) rounds
  obtain ⟨m, here⟩ := requiredReach body (min + 1) (b := b) must first
  obtain ⟨n, rest⟩ := loopReach body (lastRound a min start) inner again more
  exact ⟨m + n, here.append rest⟩

theorem codeReaches (a : Node) : Reaches program text a := by
  induction a with
  | empty =>
    intro start b s t placed same
    have same : t = s := same
    subst same
    exact ⟨0, .here _⟩
  | set a =>
    intro start b s t placed taken
    obtain ⟨c, found, inside, rfl⟩ := taken
    exact ⟨1, .one (placedHead placed) (nextSet.mpr ⟨c, found, inside, rfl⟩)⟩
  | look l =>
    intro start b s t placed holds
    obtain ⟨holds, rfl⟩ := holds
    exact ⟨1, .one (placedHead placed) (nextLook.mpr ⟨holds, rfl⟩)⟩
  | seq a c iha ihc => exact seqReaches iha ihc
  | alt a c iha ihc => exact altReaches iha ihc
  | group index a ih =>
    cases index with
    | none =>
      intro start b s t placed inner
      exact ih placed inner
    | some index => exact groupReaches ih
  | repeated min max greedy a ih =>
    cases max with
    | some max => exact boundedReaches ih
    | none =>
      cases min with
      | zero => exact starReaches ih
      | succ min => exact plusReaches ih

end

end Signpost.Regex
