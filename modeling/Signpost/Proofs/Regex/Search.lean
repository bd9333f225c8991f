import Signpost.Regex.Search

/-! What a search finds. A thread that it returns was reached from a start, and when it
returns none no start reaches an acceptance. The second half rests on the entered cells:
at the end of a run they are closed under steps, whatever was saved on the way. -/
namespace Signpost.Regex

namespace Entered

theorem maskAtMark (place other bit : Nat) (masks : List (Nat × Nat)) :
    maskAt other (mark place bit masks) =
      if other = place then maskAt place masks ||| 1 <<< bit else maskAt other masks := by
  induction masks with
  | nil =>
    by_cases same : other = place
    · simp [mark, maskAt, same]
    · simp [mark, maskAt, same, Ne.symm same]
  | cons row rest ih =>
    obtain ⟨p, mask⟩ := row
    by_cases here : p = place
    · subst here
      by_cases same : other = p
      · simp [mark, maskAt, same]
      · simp [mark, maskAt, same, Ne.symm same]
    · by_cases first : p = other
      · have different : other ≠ place := fun e => here (first.trans e)
        simp [mark, maskAt, first, different]
      · simp [mark, maskAt, here, first, ih]

theorem sizeInsert (e : Entered) (cell : Nat) :
    (e.insert cell).buckets.size = e.buckets.size := by
  simp [insert]

theorem containsInsert {e : Entered} (some : 0 < e.buckets.size) (cell other : Nat) :
    (e.insert cell).contains other = (decide (other = cell) || e.contains other) := by
  have inside : other / 32 % e.buckets.size < e.buckets.size := Nat.mod_lt _ some
  simp only [contains, sizeInsert]
  have bucket : (e.insert cell).buckets.getD (other / 32 % e.buckets.size) [] =
      if cell / 32 % e.buckets.size = other / 32 % e.buckets.size
      then mark (cell / 32) (cell % 32) (e.buckets.getD (other / 32 % e.buckets.size) [])
      else e.buckets.getD (other / 32 % e.buckets.size) [] := by
    simp only [insert, Array.getD_eq_getD_getElem?, Array.getElem?_modify]
    split
    · simp [Array.getElem?_eq_getElem inside]
    · rfl
  rw [bucket]
  by_cases place : other / 32 = cell / 32
  · rw [if_pos (by rw [place]), maskAtMark, if_pos place, Nat.testBit_or, ← place,
      Nat.one_shiftLeft, Nat.testBit_two_pow, Bool.or_comm]
    congr 1
    have : other = cell ↔ cell % 32 = other % 32 := by omega
    simp [this]
  · have different : other ≠ cell := fun e => place (by rw [e])
    split
    · rw [maskAtMark, if_neg place]; simp [different]
    · simp [different]

theorem containsEmpty (cells other : Nat) : (empty cells).contains other = false := by
  have bucket : (empty cells).buckets.getD (other / 32 % (empty cells).buckets.size) [] = [] := by
    simp only [empty, Array.getD_eq_getD_getElem?, Array.getElem?_replicate]
    split <;> rfl
  simp only [contains, bucket, maskAt, Nat.zero_testBit]

theorem sizeEmpty (cells : Nat) : 0 < (empty cells).buckets.size := by
  simp only [empty, Array.size_replicate]
  exact Nat.lt_min.mpr ⟨by omega, by omega⟩

end Entered

section
variable {program : Array Inst} {text : Array Char}

/- A single thread that takes any of the ways open to it. -/
inductive Path (program : Array Inst) (text : Array Char) : Nat → Thread → Thread → Prop where
  | here (t) : Path program text 0 t t
  | step {n t u v i} (found : program[t.pc]? = some i) (next : u ∈ i.next text t)
      (rest : Path program text n u v) : Path program text (n + 1) t v

theorem Path.append {m n t u v} (first : Path program text m t u)
    (second : Path program text n u v) : Path program text (m + n) t v := by
  induction first with
  | here t => simpa using second
  | step found next rest ih =>
    have whole := Path.step found next (ih second)
    simpa only [Nat.succ_add] using whole

theorem Path.one {i t u} (found : program[t.pc]? = some i) (next : u ∈ i.next text t) :
    Path program text 1 t u := .step found next (.here u)

theorem nextStart {i : Inst} {t u : Thread} (next : u ∈ i.next text t) : u.start = t.start := by
  cases i with
  | set s =>
    simp only [Inst.next] at next
    split at next
    · split at next
      · cases List.mem_singleton.mp next; rfl
      · cases next
    · cases next
  | look l =>
    simp only [Inst.next] at next
    split at next
    · cases List.mem_singleton.mp next; rfl
    · cases next
  | save slot => cases List.mem_singleton.mp next; rfl
  | fork first second =>
    simp only [Inst.next, List.mem_cons, List.not_mem_nil, or_false] at next
    rcases next with rfl | rfl <;> rfl
  | jump target => cases List.mem_singleton.mp next; rfl
  | accept => cases next

theorem Path.start {n t u} (path : Path program text n t u) : u.start = t.start := by
  induction path with
  | here t => rfl
  | step found next rest ih => exact ih.trans (nextStart next)

theorem nextInside {i : Inst} {t u : Thread} (next : u ∈ i.next text t)
    (inside : t.pos ≤ text.size) : u.pos ≤ text.size := by
  cases i with
  | set s =>
    simp only [Inst.next] at next
    split at next
    next c found =>
      obtain ⟨bound, _⟩ := Array.getElem?_eq_some_iff.mp found
      split at next
      · cases List.mem_singleton.mp next; exact bound
      · cases next
    · cases next
  | look l =>
    simp only [Inst.next] at next
    split at next
    · cases List.mem_singleton.mp next; exact inside
    · cases next
  | save slot => cases List.mem_singleton.mp next; exact inside
  | fork first second =>
    simp only [Inst.next, List.mem_cons, List.not_mem_nil, or_false] at next
    rcases next with rfl | rfl <;> exact inside
  | jump target => cases List.mem_singleton.mp next; exact inside
  | accept => cases next

theorem lengthNext (i : Inst) (t : Thread) : (i.next text t).length ≤ 2 := by
  cases i <;> simp only [Inst.next] <;> (try split) <;> (try split) <;> simp

theorem runReached {fuel entered stack t}
    (ok : run program text fuel entered stack = some t) :
    program[t.pc]? = some .accept ∧ ∃ s ∈ stack, ∃ n, Path program text n s t := by
  induction fuel generalizing entered stack with
  | zero => simp [run] at ok
  | succ fuel ih =>
    cases stack with
    | nil => simp [run] at ok
    | cons s rest =>
      have skipped : (∃ s ∈ rest, ∃ n, Path program text n s t) →
          ∃ u ∈ s :: rest, ∃ n, Path program text n u t := by
        intro given
        obtain ⟨u, member, path⟩ := given
        exact ⟨u, List.mem_cons_of_mem _ member, path⟩
      simp only [run] at ok
      split at ok
      · exact ⟨(ih ok).1, skipped (ih ok).2⟩
      · split at ok
        next found =>
          cases Option.some.inj ok
          exact ⟨found, t, List.mem_cons_self, 0, .here t⟩
        next i _ found =>
          obtain ⟨accepts, u, member, n, path⟩ := ih ok
          refine ⟨accepts, ?_⟩
          rcases List.mem_append.mp member with next | old
          · exact ⟨s, List.mem_cons_self, n + 1, .step found next path⟩
          · exact skipped ⟨u, old, n, path⟩
        next => exact ⟨(ih ok).1, skipped (ih ok).2⟩

/- Threads in one cell have the same future but for what they save. -/
def SameCell (t u : Thread) : Prop := t.pc = u.pc ∧ t.pos = u.pos

theorem cellOfSame {t u : Thread} (same : SameCell t u) : cell program t = cell program u := by
  simp only [cell, same.1, same.2]

theorem sameOfCell {t u : Thread} (left : t.pc < program.size) (right : u.pc < program.size)
    (cells : cell program t = cell program u) : SameCell t u := by
  simp only [cell] at cells
  have positions := congrArg (· / program.size) cells
  have places := congrArg (· % program.size) cells
  have some : 0 < program.size := by omega
  simp only [Nat.mul_comm _ program.size, Nat.mul_add_div some, Nat.div_eq_of_lt left,
    Nat.div_eq_of_lt right, Nat.add_zero] at positions
  simp only [Nat.mul_add_mod_self_right, Nat.mod_eq_of_lt left, Nat.mod_eq_of_lt right] at places
  exact ⟨places, positions⟩

theorem nextSame {i : Inst} {t t' u : Thread} (same : SameCell t t') (next : u ∈ i.next text t) :
    ∃ u' ∈ i.next text t', SameCell u u' := by
  obtain ⟨pc, pos⟩ := same
  cases i with
  | set s =>
    simp only [Inst.next, ← pos] at next ⊢
    split at next
    · split at next
      next holds =>
        cases List.mem_singleton.mp next
        exact ⟨{ t' with pc := t'.pc + 1, pos := t.pos + 1 }, by simp [holds], by simp [SameCell, pc]⟩
      · cases next
    · cases next
  | look l =>
    simp only [Inst.next, ← pos] at next ⊢
    split at next
    next holds =>
      cases List.mem_singleton.mp next
      exact ⟨{ t' with pc := t'.pc + 1, pos := t.pos }, by simp [holds], congrArg (· + 1) pc, rfl⟩
    · cases next
  | save slot =>
    cases List.mem_singleton.mp next
    exact ⟨_, List.mem_singleton.mpr rfl, by simp [SameCell, pc, pos]⟩
  | fork first second =>
    simp only [Inst.next, List.mem_cons, List.not_mem_nil, or_false] at next
    rcases next with rfl | rfl
    · exact ⟨{ t' with pc := first }, by simp [Inst.next], by simp [SameCell, pos]⟩
    · exact ⟨{ t' with pc := second }, by simp [Inst.next], by simp [SameCell, pos]⟩
  | jump target =>
    cases List.mem_singleton.mp next
    exact ⟨_, List.mem_singleton.mpr rfl, by simp [SameCell, pos]⟩
  | accept => cases next

def Covered (program : Array Inst) (entered : Entered) (stack : List Thread) (t : Thread) : Prop :=
  entered.contains (cell program t) = true ∨ ∃ u ∈ stack, SameCell t u

/- What holds of the entered cells while threads still wait: whatever leads out of them is
entered or waits, and none of them accepts. -/
structure Explored (program : Array Inst) (text : Array Char) (entered : Entered)
    (stack : List Thread) : Prop where
  buckets : 0 < entered.buckets.size
  closed : ∀ t u i, program[t.pc]? = some i → u ∈ i.next text t → u.pc < program.size →
    entered.contains (cell program t) = true → Covered program entered stack u
  rejects : ∀ t, entered.contains (cell program t) = true → program[t.pc]? ≠ some .accept

theorem exploredEmpty (cells : Nat) (stack : List Thread) :
    Explored program text (.empty cells) stack where
  buckets := Entered.sizeEmpty cells
  closed := by
    intro t u i _ _ _ entered
    simp [Entered.containsEmpty] at entered
  rejects := by
    intro t entered
    simp [Entered.containsEmpty] at entered

theorem exploredDrop {entered : Entered} {t : Thread} {stack : List Thread}
    (explored : Explored program text entered (t :: stack))
    (done : t.pc < program.size → entered.contains (cell program t) = true) :
    Explored program text entered stack where
  buckets := explored.buckets
  closed := by
    intro s u i found next bound inside
    rcases explored.closed s u i found next bound inside with old | ⟨v, member, same⟩
    · exact .inl old
    · rcases List.mem_cons.mp member with rfl | member
      · exact .inl (by rw [cellOfSame same]; exact done (same.1 ▸ bound))
      · exact .inr ⟨v, member, same⟩
  rejects := explored.rejects

theorem exploredEnter {entered : Entered} {t : Thread} {stack : List Thread} {i : Inst}
    (explored : Explored program text entered (t :: stack))
    (found : program[t.pc]? = some i) (other : i ≠ .accept) :
    Explored program text (entered.insert (cell program t)) (i.next text t ++ stack) where
  buckets := by rw [Entered.sizeInsert]; exact explored.buckets
  closed := by
    intro s u j at_s next bound inside
    have here : t.pc < program.size := (Array.getElem?_eq_some_iff.mp found).1
    have there : s.pc < program.size := (Array.getElem?_eq_some_iff.mp at_s).1
    simp only [Covered, Entered.containsInsert explored.buckets, Bool.or_eq_true,
      decide_eq_true_eq] at inside ⊢
    rcases inside with cells | old
    · have same := sameOfCell there here cells
      have instruction : j = i := by
        rw [same.1, found] at at_s
        exact (Option.some.inj at_s).symm
      subst instruction
      obtain ⟨u', member, like⟩ := nextSame same next
      exact .inr ⟨u', List.mem_append_left _ member, like⟩
    · rcases explored.closed s u j at_s next bound old with old | ⟨v, member, like⟩
      · exact .inl (.inr old)
      · rcases List.mem_cons.mp member with rfl | member
        · exact .inl (.inl (cellOfSame like))
        · exact .inr ⟨v, List.mem_append_right _ member, like⟩
  rejects := by
    intro s inside accepts
    have here : t.pc < program.size := (Array.getElem?_eq_some_iff.mp found).1
    have there : s.pc < program.size := (Array.getElem?_eq_some_iff.mp accepts).1
    simp only [Entered.containsInsert explored.buckets, Bool.or_eq_true,
      decide_eq_true_eq] at inside
    rcases inside with cells | old
    · rw [(sameOfCell there here cells).1, found] at accepts
      exact other (Option.some.inj accepts)
    · exact explored.rejects s old accepts

/- The cells that may still be entered. -/
def fresh (program : Array Inst) (text : Array Char) (entered : Entered) : Nat :=
  (List.range (program.size * (text.size + 1))).countP fun k => !entered.contains k

theorem countInsert {entered : Entered} (some : 0 < entered.buckets.size) {cell : Nat}
    (new : entered.contains cell = false) {cells : List Nat} (member : cell ∈ cells) :
    cells.countP (fun k => !(entered.insert cell).contains k) <
      cells.countP fun k => !entered.contains k := by
  have below : ∀ rest : List Nat, rest.countP (fun k => !(entered.insert cell).contains k) ≤
      rest.countP fun k => !entered.contains k := by
    intro rest
    apply List.countP_mono_left
    intro k _
    simp [Entered.containsInsert some]
  induction cells with
  | nil => cases member
  | cons k rest ih =>
    have here := below rest
    simp only [List.countP_cons]
    by_cases same : k = cell
    · subst same
      simp only [Entered.containsInsert some, new, decide_true, Bool.true_or, Bool.not_true,
        Bool.false_eq_true, if_false, Bool.not_false, if_true]
      simp only [Entered.containsInsert some] at here
      omega
    · have later := ih (by rcases List.mem_cons.mp member with e | h
                           · exact absurd e.symm same
                           · exact h)
      simp only [Entered.containsInsert some, same, decide_false, Bool.false_or] at later ⊢
      omega

theorem cellInRange {t : Thread} (place : t.pc < program.size) (inside : t.pos ≤ text.size) :
    cell program t ∈ List.range (program.size * (text.size + 1)) := by
  have rows : (t.pos + 1) * program.size ≤ (text.size + 1) * program.size :=
    Nat.mul_le_mul_right _ (by omega)
  rw [Nat.add_mul, Nat.one_mul, Nat.mul_comm (text.size + 1)] at rows
  exact List.mem_range.mpr (by simp only [cell]; omega)

/- A run without an answer has entered all it was given, and closed it under steps. Every
step takes a thread off the stack, and those that put two on it use up a cell. -/
theorem runExplores {fuel : Nat} {entered : Entered} {stack : List Thread}
    (explored : Explored program text entered stack)
    (inside : ∀ t ∈ stack, t.pos ≤ text.size)
    (enough : 2 * fresh program text entered + stack.length < fuel)
    (none : run program text fuel entered stack = none) :
    ∃ last, Explored program text last [] ∧
      (∀ k, entered.contains k = true → last.contains k = true) ∧
      ∀ t ∈ stack, t.pc < program.size → last.contains (cell program t) = true := by
  induction fuel generalizing entered stack with
  | zero => omega
  | succ fuel ih =>
    cases stack with
    | nil => exact ⟨entered, explored, fun _ h => h, by simp⟩
    | cons t rest =>
      have insideRest : ∀ u ∈ rest, u.pos ≤ text.size :=
        fun u member => inside u (List.mem_cons_of_mem _ member)
      simp only [List.length_cons] at enough
      simp only [run] at none
      split at none
      next old =>
        obtain ⟨last, closed, grows, covers⟩ :=
          ih (exploredDrop explored fun _ => old) insideRest (by omega) none
        refine ⟨last, closed, grows, ?_⟩
        intro u member bound
        rcases List.mem_cons.mp member with rfl | member
        · exact grows _ old
        · exact covers u member bound
      next new =>
        split at none
        · cases none
        next i other found =>
          have place : t.pc < program.size := (Array.getElem?_eq_some_iff.mp found).1
          have here := inside t List.mem_cons_self
          have less := countInsert explored.buckets (by simpa using new) (cellInRange place here)
          have two : (i.next text t).length ≤ 2 := lengthNext i t
          obtain ⟨last, closed, grows, covers⟩ :=
            ih (exploredEnter explored found (fun e => other (by rw [e]))) (by
                intro u member
                rcases List.mem_append.mp member with next | old
                · exact nextInside next here
                · exact insideRest u old)
              (by simp only [List.length_append, fresh] at enough ⊢; omega) none
          have kept : ∀ k, (entered.insert (cell program t)).contains k = true →
              last.contains k = true := grows
          simp only [Entered.containsInsert explored.buckets] at kept
          refine ⟨last, closed, fun k h => kept k (by simp [h]), ?_⟩
          intro u member bound
          rcases List.mem_cons.mp member with rfl | member
          · exact kept _ (by simp)
          · exact covers u (List.mem_append_right _ member) bound
        next outside =>
          have beyond : ¬ t.pc < program.size := by
            intro bound
            simp [Array.getElem?_eq_getElem bound] at outside
          obtain ⟨last, closed, grows, covers⟩ :=
            ih (exploredDrop explored fun bound => absurd bound beyond) insideRest (by omega) none
          refine ⟨last, closed, grows, ?_⟩
          intro u member bound
          rcases List.mem_cons.mp member with rfl | member
          · exact absurd bound beyond
          · exact covers u member bound

theorem exploredPath {entered : Entered} (explored : Explored program text entered [])
    {n t u} (path : Path program text n t u) (accepts : program[u.pc]? = some .accept)
    (inside : entered.contains (cell program t) = true) : False := by
  induction path with
  | here t => exact explored.rejects t inside accepts
  | @step n t v u i found next rest ih =>
    have bound : v.pc < program.size := by
      cases rest with
      | here => exact (Array.getElem?_eq_some_iff.mp accepts).1
      | step found' _ _ => exact (Array.getElem?_eq_some_iff.mp found').1
    rcases explored.closed t v i found next bound inside with covered | ⟨w, member, _⟩
    · exact ih accepts covered
    · cases member

/- Where a search begins: at the first instruction, in any position. -/
def Begins (text : Array Char) (t : Thread) : Prop :=
  t.pc = 0 ∧ t.pos = t.start ∧ t.start ≤ text.size ∧ t.slots = []

theorem memStarts {t : Thread} : t ∈ starts text ↔ Begins text t := by
  simp only [starts, List.mem_map, List.mem_range, Begins]
  constructor
  · intro given
    obtain ⟨pos, bound, rfl⟩ := given
    exact ⟨rfl, rfl, Nat.le_of_lt_succ bound, rfl⟩
  · intro given
    obtain ⟨pc, pos, bound, slots⟩ := given
    refine ⟨t.start, by omega, ?_⟩
    cases t
    simp_all

theorem searchSound {t} (found : search program text = some t) :
    program[t.pc]? = some .accept ∧ ∃ s n, Begins text s ∧ Path program text n s t := by
  obtain ⟨accepts, s, member, n, path⟩ := runReached found
  exact ⟨accepts, s, n, memStarts.mp member, path⟩

theorem searchComplete {n s t} (begins : Begins text s) (path : Path program text n s t)
    (accepts : program[t.pc]? = some .accept) : (search program text).isSome = true := by
  rw [Option.isSome_iff_ne_none]
  intro none
  have count : fresh program text (.empty (program.size * (text.size + 1))) =
      program.size * (text.size + 1) := by
    simp [fresh, Entered.containsEmpty]
  obtain ⟨last, closed, _, covers⟩ := runExplores (exploredEmpty _ (starts text))
    (fun u member => by
      obtain ⟨_, pos, bound, _⟩ := memStarts.mp member
      omega)
    (by rw [count]; simp [starts]; omega) none
  have bound : s.pc < program.size := by
    cases path with
    | here => exact (Array.getElem?_eq_some_iff.mp accepts).1
    | step found _ _ => exact (Array.getElem?_eq_some_iff.mp found).1
  exact exploredPath closed path accepts (covers s (memStarts.mpr begins) bound)

end

end Signpost.Regex
