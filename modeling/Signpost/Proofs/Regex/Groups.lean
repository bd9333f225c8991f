import Signpost.Proofs.Regex.Match

/-! Capture groups. What a match saves is a journal, the latest entry first. A number that
one group alone has in an expression stands in the journal for what this group took when it
was last gone through, or not at all. -/
namespace Signpost.Regex

theorem savedAppend (first second : Slots) (slot : Nat) :
    saved? (first ++ second) slot = (saved? first slot).or (saved? second slot) := by
  simp only [saved?, List.find?_append]
  cases first.find? (·.1 == slot) <;> rfl

theorem savedMissing {marks : Slots} {slot : Nat} (missing : ∀ m ∈ marks, m.1 ≠ slot) :
    saved? marks slot = none := by
  simpa [saved?] using fun a b member => missing (a, b) member

/- Neither the start nor the end of the group is saved. -/
def Silent (index : Nat) (marks : Slots) : Prop :=
  ∀ m ∈ marks, m.1 ≠ 2 * index ∧ m.1 ≠ 2 * index + 1

theorem silentSaved {index : Nat} {marks : Slots} (silent : Silent index marks) :
    saved? marks (2 * index) = none ∧ saved? marks (2 * index + 1) = none :=
  ⟨savedMissing fun m member => (silent m member).1,
    savedMissing fun m member => (silent m member).2⟩

theorem silentAppend {index : Nat} {first second : Slots} :
    Silent index (first ++ second) ↔ Silent index first ∧ Silent index second :=
  List.forall_mem_append

theorem silentOther {index other slot pos : Nat} (apart : other ≠ index)
    (either : slot = 2 * other ∨ slot = 2 * other + 1) : Silent index [(slot, pos)] := by
  intro m member
  cases List.mem_singleton.mp member
  simp only
  omega

/- The last stretch that a group took, from one position to another. -/
def TookLast (text : Array Char) (marks : Slots) (index : Nat) (body : Node) (lo hi : Nat) : Prop :=
  ∃ later inside earlier,
    marks = later ++ (2 * index + 1, hi) :: (inside ++ (2 * index, lo) :: earlier) ∧
      Silent index later ∧ Silent index inside ∧
      body.Match text ⟨lo, (2 * index, lo) :: earlier⟩ ⟨hi, inside ++ (2 * index, lo) :: earlier⟩

theorem tookBefore {text : Array Char} {marks new : Slots} {index : Nat} {body : Node} {lo hi : Nat}
    (took : TookLast text marks index body lo hi) (silent : Silent index new) :
    TookLast text (new ++ marks) index body lo hi := by
  obtain ⟨later, inside, earlier, rfl, behind, within, taken⟩ := took
  exact ⟨new ++ later, inside, earlier, by rw [List.append_assoc], silentAppend.mpr ⟨silent, behind⟩,
    within, taken⟩

theorem tookSaved {text : Array Char} {marks : Slots} {index : Nat} {body : Node} {lo hi : Nat}
    (took : TookLast text marks index body lo hi) :
    saved? marks (2 * index) = some lo ∧ saved? marks (2 * index + 1) = some hi := by
  obtain ⟨later, inside, earlier, rfl, behind, within, _⟩ := took
  obtain ⟨first, second⟩ := silentSaved behind
  rw [savedAppend, savedAppend, first, second]
  refine ⟨?_, by simp [saved?]⟩
  have apart : saved? ((2 * index + 1, hi) :: (inside ++ (2 * index, lo) :: earlier)) (2 * index) =
      saved? (inside ++ (2 * index, lo) :: earlier) (2 * index) := by
    rw [saved?, List.find?_cons_of_neg (by simp)]
    rfl
  rw [Option.none_or, apart, savedAppend, (silentSaved within).1]
  simp [saved?]

section
variable {text : List Char} {marks : Slots} {index size : Nat}

theorem groupTextSilent (silent : Silent index marks) (inside : 2 * index + 1 < size) :
    groupText text (saves marks size) index = [] := by
  obtain ⟨first, second⟩ := silentSaved silent
  rw [groupText, savesGetD _ _ _ (by omega), savesGetD _ _ _ inside, first]

theorem groupTextLast {body : Node} {lo hi : Nat}
    (took : TookLast text.toArray marks index body lo hi) (inside : 2 * index + 1 < size) :
    groupText text (saves marks size) index = (text.drop lo).take (hi - lo) := by
  obtain ⟨first, second⟩ := tookSaved took
  rw [groupText, savesGetD _ _ _ (by omega), savesGetD _ _ _ inside, first, second]

end

namespace Node

/- The capture groups, by number. -/
def captured : Node → List (Nat × Node)
  | empty | set _ | look _ => []
  | seq a b | alt a b => a.captured ++ b.captured
  | group none a => a.captured
  | group (some index) a => (index, a) :: a.captured
  | repeated _ _ _ a => a.captured

def numbers (a : Node) : List Nat := a.captured.map Prod.fst

theorem numbersBelow {a : Node} {index : Nat} (member : index ∈ a.numbers) :
    index ≤ a.lastGroup := by
  unfold numbers at member
  induction a with
  | empty | set _ | look _ => cases member
  | seq a b iha ihb | alt a b iha ihb =>
    rw [captured, List.map_append] at member
    rcases List.mem_append.mp member with first | second
    · exact Nat.le_trans (iha first) (Nat.le_max_left _ _)
    · exact Nat.le_trans (ihb second) (Nat.le_max_right _ _)
  | group number a ih =>
    cases number with
    | none => exact Nat.le_trans (ih member) (Nat.le_max_right _ _)
    | some number =>
      rw [captured, List.map_cons] at member
      rcases List.mem_cons.mp member with rfl | inside
      · exact Nat.le_max_left _ _
      · exact Nat.le_trans (ih inside) (Nat.le_max_right _ _)
  | repeated min max greedy a ih => exact ih member

theorem lastGroupWithin {a : Node} {n : Nat} (below : ∀ index ∈ a.numbers, index ≤ n) :
    a.lastGroup ≤ n := by
  unfold numbers at below
  induction a with
  | empty | set _ | look _ => exact Nat.zero_le n
  | seq a b iha ihb | alt a b iha ihb =>
    rw [captured, List.map_append, List.forall_mem_append] at below
    exact Nat.max_le.mpr ⟨iha below.1, ihb below.2⟩
  | group number a ih =>
    cases number with
    | none => exact Nat.max_le.mpr ⟨Nat.zero_le n, ih below⟩
    | some number =>
      rw [captured, List.map_cons, List.forall_mem_cons] at below
      exact Nat.max_le.mpr ⟨below.1, ih below.2⟩
  | repeated min max greedy a ih => exact ih below

section
variable {text : Array Char} {index : Nat}

/- The journal goes on without the group. -/
def Passes (index : Nat) (s t : Point) : Prop :=
  ∃ new, t.slots = new ++ s.slots ∧ Silent index new

theorem passesSame {s t : Point} (same : t.slots = s.slots) : Passes index s t :=
  ⟨[], same, fun _ member => nomatch member⟩

theorem passesTrans {s t u : Point} (first : Passes index s u) (second : Passes index u t) :
    Passes index s t := by
  obtain ⟨new, begins, one⟩ := first
  obtain ⟨more, goesOn, two⟩ := second
  exact ⟨more ++ new, by rw [goesOn, begins, List.append_assoc], silentAppend.mpr ⟨two, one⟩⟩

theorem passesRounds {r : Point → Point → Prop} {n : Nat} {s t : Point}
    (each : ∀ s t, r s t → Passes index s t) (rounds : Rounds r n s t) : Passes index s t := by
  induction n generalizing s with
  | zero =>
    cases rounds
    exact passesSame rfl
  | succ n ih =>
    obtain ⟨u, one, more⟩ := rounds
    exact passesTrans (each s u one) (ih more)

theorem passesSave {s : Point} {other slot : Nat} (apart : other ≠ index)
    (either : slot = 2 * other ∨ slot = 2 * other + 1) : Passes index s (s.save slot) :=
  ⟨[(slot, s.pos)], rfl, silentOther apart either⟩

theorem matchPasses {a : Node} {s t : Point} (free : index ∉ a.numbers)
    (taken : a.Match text s t) : Passes index s t := by
  unfold numbers at free
  induction a generalizing s t with
  | empty =>
    cases taken
    exact passesSame rfl
  | set a =>
    obtain ⟨c, _, _, rfl⟩ := taken
    exact passesSame rfl
  | look l =>
    cases taken.2
    exact passesSame rfl
  | seq a b iha ihb =>
    rw [captured, List.map_append, List.mem_append, not_or] at free
    obtain ⟨u, first, second⟩ := taken
    exact passesTrans (iha free.1 first) (ihb free.2 second)
  | alt a b iha ihb =>
    rw [captured, List.map_append, List.mem_append, not_or] at free
    rcases taken with first | second
    · exact iha free.1 first
    · exact ihb free.2 second
  | group number a ih =>
    cases number with
    | none => exact ih free taken
    | some number =>
      rw [captured, List.map_cons, List.mem_cons, not_or] at free
      obtain ⟨u, body, rfl⟩ := taken
      have apart : number ≠ index := Ne.symm free.1
      exact passesTrans (passesSave apart (.inl rfl))
        (passesTrans (ih free.2 body) (passesSave apart (.inr rfl)))
  | repeated min max greedy a ih =>
    obtain ⟨n, _, _, rounds⟩ := taken
    exact passesRounds (fun s t => ih free) rounds

/- A group of this number took part, and this is the stretch it took last. -/
def Records (text : Array Char) (a : Node) (index : Nat) (t : Point) : Prop :=
  ∃ body lo hi, (index, body) ∈ a.captured ∧ TookLast text t.slots index body lo hi

theorem recordsPass {a : Node} {s t : Point} (records : Records text a index s)
    (passes : Passes index s t) : Records text a index t := by
  obtain ⟨body, lo, hi, member, took⟩ := records
  obtain ⟨new, same, silent⟩ := passes
  exact ⟨body, lo, hi, member, same ▸ tookBefore took silent⟩

theorem recordsWithin {a b : Node} {t : Point} (within : a.captured ⊆ b.captured)
    (records : Records text a index t) : Records text b index t := by
  obtain ⟨body, lo, hi, member, took⟩ := records
  exact ⟨body, lo, hi, within member, took⟩

theorem recordsRounds {a : Node} {r : Point → Point → Prop} {n : Nat} {s t : Point}
    (each : ∀ s t, r s t → Passes index s t ∨ Records text a index t)
    (rounds : Rounds r n s t) : Passes index s t ∨ Records text a index t := by
  induction n generalizing s with
  | zero =>
    cases rounds
    exact .inl (passesSame rfl)
  | succ n ih =>
    obtain ⟨u, one, more⟩ := rounds
    rcases ih more with passes | records
    · rcases each s u one with before | records
      · exact .inl (passesTrans before passes)
      · exact .inr (recordsPass records passes)
    · exact .inr records

/- Where no number stands for two groups. Of the parts of a match the last one in which the
group takes part decides. -/
theorem matchRecords {a : Node} {s t : Point} (distinct : a.numbers.Nodup)
    (taken : a.Match text s t) : Passes index s t ∨ Records text a index t := by
  unfold numbers at distinct
  induction a generalizing s t with
  | empty =>
    cases taken
    exact .inl (passesSame rfl)
  | set a =>
    obtain ⟨c, _, _, rfl⟩ := taken
    exact .inl (passesSame rfl)
  | look l =>
    cases taken.2
    exact .inl (passesSame rfl)
  | seq a b iha ihb =>
    rw [captured, List.map_append, List.nodup_append] at distinct
    obtain ⟨u, first, second⟩ := taken
    rcases ihb distinct.2.1 second with passes | records
    · rcases iha distinct.1 first with before | records
      · exact .inl (passesTrans before passes)
      · exact .inr (recordsWithin (List.subset_append_left _ _) (recordsPass records passes))
    · exact .inr (recordsWithin (List.subset_append_right _ _) records)
  | alt a b iha ihb =>
    rw [captured, List.map_append, List.nodup_append] at distinct
    rcases taken with first | second
    · exact (iha distinct.1 first).imp_right (recordsWithin (List.subset_append_left _ _))
    · exact (ihb distinct.2.1 second).imp_right (recordsWithin (List.subset_append_right _ _))
  | group number a ih =>
    cases number with
    | none => exact ih distinct taken
    | some number =>
      rw [captured, List.map_cons, List.nodup_cons] at distinct
      obtain ⟨u, body, rfl⟩ := taken
      by_cases same : number = index
      · subst same
        obtain ⟨inside, slots, silent⟩ := matchPasses distinct.1 body
        have none : Silent number [] := fun _ member => nomatch member
        refine .inr ⟨a, s.pos, u.pos, List.mem_cons_self, [], inside, s.slots, ?_, none, silent, ?_⟩
        · rw [Point.save, slots]
          rfl
        · obtain ⟨pos, marks⟩ := u
          cases slots
          exact body
      · have closing : Passes index u (u.save (2 * number + 1)) := passesSave same (.inr rfl)
        rcases ih distinct.2 body with passes | records
        · exact .inl (passesTrans (passesSave same (.inl rfl)) (passesTrans passes closing))
        · exact .inr (recordsWithin (List.subset_cons_self _ _) (recordsPass records closing))
  | repeated min max greedy a ih =>
    obtain ⟨n, _, _, rounds⟩ := taken
    exact recordsRounds (fun s t => ih distinct) rounds

end
end Node
end Signpost.Regex
