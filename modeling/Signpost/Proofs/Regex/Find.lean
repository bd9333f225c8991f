import Signpost.Proofs.Regex.Code

/-! A search finds a match whenever there is one, and nothing else. Which of several matches
is found is not said here. -/
namespace Signpost.Regex

theorem programPlaced (a : Node) :
    Placed a.program.toArray 0 (a.code 0 (0 + a.size)) ∧
      a.program.toArray[0 + a.size]? = some .accept := by
  simp only [Node.program, Nat.zero_add]
  constructor
  · intro i bound
    rw [Nat.zero_add, List.getElem?_toArray, List.getElem?_append_left bound]
  · have length := Node.codeLength a 0 a.size
    rw [List.getElem?_toArray, List.getElem?_append_right (Nat.le_of_eq length), length]
    simp

theorem copiesReject {n size place : Nat} {code : Nat → List Inst}
    (each : ∀ place, ∀ i ∈ code place, i ≠ .accept) :
    ∀ i ∈ copies n size code place, i ≠ .accept := by
  intro i member
  obtain ⟨j, _, member⟩ := List.mem_flatMap.mp member
  exact each _ i member

theorem preferredRejects (greedy : Bool) (stay leave : Nat) :
    Node.preferred greedy stay leave ≠ .accept := by
  cases greedy <;> simp [Node.preferred]

/- The code of a node holds no acceptance, so a program accepts at its end alone. -/
theorem codeRejects (a : Node) (start stop : Nat) : ∀ i ∈ a.code start stop, i ≠ .accept := by
  induction a generalizing start stop with
  | empty => simp [Node.code]
  | set a => simp [Node.code]
  | look l => simp [Node.code]
  | seq a c iha ihc =>
    intro i member
    rcases List.mem_append.mp member with member | member
    · exact iha _ _ i member
    · exact ihc _ _ i member
  | alt a c iha ihc =>
    intro i member
    simp only [Node.code, List.mem_cons, List.mem_append] at member
    rcases member with rfl | member | rfl | member
    · simp
    · exact iha _ _ i member
    · simp
    · exact ihc _ _ i member
  | group index a ih =>
    cases index with
    | none => exact ih start stop
    | some index =>
      intro i member
      simp only [Node.code, List.mem_cons, List.mem_append, List.not_mem_nil, or_false] at member
      rcases member with rfl | member | rfl
      · simp
      · exact ih _ _ i member
      · simp
  | repeated min max greedy a ih =>
    intro i member
    cases max with
    | some max =>
      rcases List.mem_append.mp member with member | member
      · exact copiesReject (fun place => ih _ _) i member
      · refine copiesReject (fun place i member => ?_) i member
        rcases List.mem_cons.mp member with rfl | member
        · exact preferredRejects _ _ _
        · exact ih _ _ i member
    | none =>
      cases min with
      | zero =>
        simp only [Node.code, List.mem_cons, List.mem_append, List.not_mem_nil, or_false] at member
        rcases member with rfl | member | rfl
        · exact preferredRejects _ _ _
        · exact ih _ _ i member
        · exact preferredRejects _ _ _
      | succ min =>
        rcases List.mem_append.mp member with member | member
        · exact copiesReject (fun place => ih _ _) i member
        · cases List.mem_singleton.mp member
          exact preferredRejects _ _ _

theorem acceptsAtEnd {a : Node} {pc : Nat} (accepts : a.program.toArray[pc]? = some .accept) :
    pc = a.size := by
  have length := Node.codeLength a 0 a.size
  rw [List.getElem?_toArray, Node.program] at accepts
  rcases Nat.lt_trichotomy pc a.size with before | same | behind
  · rw [List.getElem?_append_left (by omega)] at accepts
    exact absurd rfl (codeRejects a 0 a.size _ (List.mem_of_getElem? accepts))
  · exact same
  · rw [List.getElem?_eq_none (by simp [length]; omega)] at accepts
    cases accepts

theorem beginsThread {text : Array Char} {t : Thread} (begins : Begins text t) :
    t = (⟨t.start, []⟩ : Point).thread 0 t.start := by
  obtain ⟨pc, pos, _, slots⟩ := begins
  cases t
  simp_all [Point.thread]

/- What is found is a match of the expression. -/
theorem findSound {r : Regex} {text : List Char} {t : Thread} (found : r.find? text = some t) :
    t.start ≤ text.length ∧
      r.node.Match text.toArray ⟨t.start, []⟩ ⟨t.pos, t.slots⟩ := by
  simp only [find?, r.program_eq] at found
  obtain ⟨accepts, s, n, begins, path⟩ := searchSound found
  have bound := begins.2.2.1
  have start : t.start = s.start := path.start
  have place := acceptsAtEnd accepts
  rw [beginsThread begins] at path
  obtain ⟨placed, _⟩ := programPlaced r.node
  obtain ⟨m, u, _, taken, rest⟩ := codeLeaves r.node placed path (.inr (by omega))
  cases rest with
  | here => exact ⟨by simpa [Point.thread] using bound, taken⟩
  | step at_end next _ =>
    cases Option.some.inj ((programPlaced r.node).2.symm.trans at_end)
    cases next

theorem findComplete {r : Regex} {text : List Char} {start : Nat} {t : Point}
    (bound : start ≤ text.length) (taken : r.node.Match text.toArray ⟨start, []⟩ t) :
    r.isMatch text = true := by
  simp only [isMatch, find?, r.program_eq]
  obtain ⟨placed, accepts⟩ := programPlaced r.node
  obtain ⟨n, path⟩ := codeReaches r.node (b := start) placed taken
  exact searchComplete ⟨rfl, rfl, by simpa [Point.thread] using bound, rfl⟩ path accepts

/- An expression matches somewhere exactly when a match is found. -/
theorem isMatchExact {r : Regex} {text : List Char} :
    r.isMatch text = true ↔
      ∃ start t, start ≤ text.length ∧ r.node.Match text.toArray ⟨start, []⟩ t := by
  constructor
  · intro hit
    obtain ⟨t, found⟩ := Option.isSome_iff_exists.mp hit
    obtain ⟨bound, taken⟩ := findSound found
    exact ⟨_, _, bound, taken⟩
  · intro given
    obtain ⟨start, t, bound, taken⟩ := given
    exact findComplete bound taken

end Signpost.Regex
