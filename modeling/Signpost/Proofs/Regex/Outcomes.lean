import Signpost.Proofs.Regex.Find
import Signpost.Proofs.Regex.Preference

/-! The matches of a node in their order of preference, and that a search finds the first of
them. A round that may be repeated without limit has to take a character here, so that no
more rounds are gone than the text has characters. -/
namespace Signpost.Regex

namespace Node

/- Where rounds end that have to be gone, preferred ends first. -/
def afterRounds (way : Point → List Point) : Nat → Point → List Point
  | 0, s => [s]
  | n + 1, s => (way s).flatMap (afterRounds way n)

/- Where rounds end that may be left out. -/
def afterOptions (way : Point → List Point) (greedy : Bool) : Nat → Point → List Point
  | 0, s => [s]
  | n + 1, s =>
    let further := (way s).flatMap (afterOptions way greedy n)
    if greedy then further ++ [s] else [s] ++ further

def outcomes (text : Array Char) : Node → Point → List Point
  | empty, s => [s]
  | set a, s =>
    match text[s.pos]? with
    | some c => if a.contains c then [s.advance] else []
    | none => []
  | look l, s => if l.holds text s.pos then [s] else []
  | seq a b, s => (a.outcomes text s).flatMap (b.outcomes text)
  | alt a b, s => a.outcomes text s ++ b.outcomes text s
  | group none a, s => a.outcomes text s
  | group (some index) a, s =>
    (a.outcomes text (s.save (2 * index))).map fun t => t.save (2 * index + 1)
  | repeated min (some max) greedy a, s =>
    (afterRounds (a.outcomes text) min s).flatMap
      (afterOptions (a.outcomes text) greedy (max - min))
  | repeated min none greedy a, s =>
    (afterRounds (a.outcomes text) min s).flatMap (afterOptions (a.outcomes text) greedy text.size)

/- Every match takes a character. -/
def takesSome : Node → Bool
  | empty | look _ => false
  | set _ => true
  | seq a b => a.takesSome || b.takesSome
  | alt a b => a.takesSome && b.takesSome
  | group _ a => a.takesSome
  | repeated min _ _ a => min != 0 && a.takesSome

/- Rounds without limit take a character each. -/
def isSolid : Node → Bool
  | empty | look _ | set _ => true
  | seq a b | alt a b => a.isSolid && b.isSolid
  | group _ a | repeated _ (some _) _ a => a.isSolid
  | repeated _ none _ a => a.isSolid && a.takesSome

end Node

section
variable {text : Array Char} {s t : Point}

theorem roundsOutcomes {way : Point → List Point} {r : Point → Point → Prop}
    (each : ∀ s, ∀ t ∈ way s, r s t) {n : Nat} (member : t ∈ Node.afterRounds way n s) :
    Rounds r n s t := by
  induction n generalizing s with
  | zero => exact List.mem_singleton.mp member
  | succ n ih =>
    obtain ⟨u, first, rest⟩ := List.mem_flatMap.mp member
    exact ⟨u, each s u first, ih rest⟩

theorem optionsOutcomes {way : Point → List Point} {r : Point → Point → Prop} {greedy : Bool}
    (each : ∀ s, ∀ t ∈ way s, r s t) {n : Nat} (member : t ∈ Node.afterOptions way greedy n s) :
    ∃ k ≤ n, Rounds r k s t := by
  induction n generalizing s with
  | zero => exact ⟨0, Nat.le_refl 0, List.mem_singleton.mp member⟩
  | succ n ih =>
    have either : t = s ∨ t ∈ (way s).flatMap (Node.afterOptions way greedy n) := by
      cases greedy <;> simp only [Node.afterOptions, if_true, Bool.false_eq_true, if_false,
        List.mem_append, List.mem_singleton] at member
      · exact member
      · exact member.symm
    rcases either with same | further
    · exact ⟨0, Nat.zero_le _, same⟩
    · obtain ⟨u, first, rest⟩ := List.mem_flatMap.mp further
      obtain ⟨k, few, more⟩ := ih rest
      exact ⟨k + 1, Nat.succ_le_succ few, u, each s u first, more⟩

/- Every outcome is a match. -/
theorem outcomesMatch {a : Node} (member : t ∈ a.outcomes text s) : a.Match text s t := by
  induction a generalizing s t with
  | empty => exact List.mem_singleton.mp member
  | set a =>
    simp only [Node.outcomes] at member
    split at member
    next c found =>
      split at member
      next inside => exact ⟨c, found, inside, List.mem_singleton.mp member⟩
      · cases member
    · cases member
  | look l =>
    simp only [Node.outcomes] at member
    split at member
    next holds => exact ⟨holds, List.mem_singleton.mp member⟩
    · cases member
  | seq a c iha ihc =>
    obtain ⟨u, first, rest⟩ := List.mem_flatMap.mp member
    exact ⟨u, iha first, ihc rest⟩
  | alt a c iha ihc => exact (List.mem_append.mp member).imp iha ihc
  | group index a ih =>
    cases index with
    | none => exact ih (s := s) member
    | some index =>
      obtain ⟨u, inner, rfl⟩ := List.mem_map.mp member
      exact ⟨u, ih inner, rfl⟩
  | repeated min max greedy a ih =>
    cases max with
    | some max =>
      obtain ⟨u, first, rest⟩ := List.mem_flatMap.mp member
      obtain ⟨k, few, more⟩ := optionsOutcomes (fun s t => ih) rest
      refine ⟨min + k, Nat.le_add_right _ _, ?_, roundsAppend (roundsOutcomes (fun s t => ih) first) more⟩
      intro m same
      cases same
      omega
    | none =>
      obtain ⟨u, first, rest⟩ := List.mem_flatMap.mp member
      obtain ⟨k, _, more⟩ := optionsOutcomes (fun s t => ih) rest
      exact ⟨min + k, Nat.le_add_right _ _, fun m none => (by cases none),
        roundsAppend (roundsOutcomes (fun s t => ih) first) more⟩

theorem roundsAdvance {r : Point → Point → Prop} {n : Nat}
    (each : ∀ s t, r s t → s.pos ≤ t.pos) (rounds : Rounds r n s t) : s.pos ≤ t.pos := by
  induction n generalizing s with
  | zero =>
    cases rounds
    exact Nat.le_refl _
  | succ n ih =>
    obtain ⟨u, first, rest⟩ := rounds
    exact Nat.le_trans (each s u first) (ih rest)

theorem matchAdvances {a : Node} (taken : a.Match text s t) : s.pos ≤ t.pos := by
  induction a generalizing s t with
  | empty =>
    cases taken
    exact Nat.le_refl _
  | set a =>
    obtain ⟨_, _, _, rfl⟩ := taken
    exact Nat.le_succ _
  | look l =>
    obtain ⟨_, rfl⟩ := taken
    exact Nat.le_refl _
  | seq a c iha ihc =>
    obtain ⟨u, first, rest⟩ := taken
    exact Nat.le_trans (iha first) (ihc rest)
  | alt a c iha ihc => exact taken.elim iha ihc
  | group index a ih =>
    cases index with
    | none => exact ih (s := s) taken
    | some index =>
      obtain ⟨u, inner, rfl⟩ := taken
      exact ih (s := s.save (2 * index)) (t := u) inner
  | repeated min max greedy a ih =>
    obtain ⟨n, _, _, rounds⟩ := taken
    exact roundsAdvance (fun s t => ih) rounds

theorem matchTakesSome {a : Node} (filled : a.takesSome = true) (taken : a.Match text s t) :
    s.pos < t.pos := by
  induction a generalizing s t with
  | empty => cases filled
  | set a =>
    obtain ⟨_, _, _, rfl⟩ := taken
    exact Nat.lt_succ_self _
  | look l => cases filled
  | seq a c iha ihc =>
    obtain ⟨u, first, rest⟩ := taken
    rcases (Bool.or_eq_true _ _).mp filled with filled | filled
    · exact Nat.lt_of_lt_of_le (iha filled first) (matchAdvances rest)
    · exact Nat.lt_of_le_of_lt (matchAdvances first) (ihc filled rest)
  | alt a c iha ihc =>
    obtain ⟨left, right⟩ := (Bool.and_eq_true _ _).mp filled
    exact taken.elim (iha left) (ihc right)
  | group index a ih =>
    cases index with
    | none => exact ih (s := s) filled taken
    | some index =>
      obtain ⟨u, inner, rfl⟩ := taken
      exact ih (s := s.save (2 * index)) (t := u) filled inner
  | repeated min max greedy a ih =>
    obtain ⟨least, filled⟩ := (Bool.and_eq_true _ _).mp filled
    obtain ⟨n, enough, _, rounds⟩ := taken
    cases n with
    | zero => simp only [bne_iff_ne, ne_eq] at least; omega
    | succ n =>
      obtain ⟨u, first, rest⟩ := rounds
      exact Nat.lt_of_lt_of_le (ih filled first) (roundsAdvance (fun s t => matchAdvances) rest)

theorem outcomesInside {a : Node} (inside : s.pos ≤ text.size) (member : t ∈ a.outcomes text s) :
    t.pos ≤ text.size :=
  Node.matchInside inside (outcomesMatch member)

theorem roundsReached {way : Point → List Point} {r : Point → Point → Prop}
    (each : ∀ s t, s.pos ≤ text.size → r s t → t.pos ≤ text.size ∧ t ∈ way s) {n : Nat}
    (inside : s.pos ≤ text.size) (rounds : Rounds r n s t) : t ∈ Node.afterRounds way n s := by
  induction n generalizing s with
  | zero => exact List.mem_singleton.mpr rounds
  | succ n ih =>
    obtain ⟨u, first, rest⟩ := rounds
    obtain ⟨inside, member⟩ := each s u inside first
    exact List.mem_flatMap.mpr ⟨u, member, ih inside rest⟩

theorem optionsReached {way : Point → List Point} {r : Point → Point → Prop} {greedy : Bool}
    (each : ∀ s t, s.pos ≤ text.size → r s t → t.pos ≤ text.size ∧ t ∈ way s) {k n : Nat}
    (few : k ≤ n) (inside : s.pos ≤ text.size) (rounds : Rounds r k s t) :
    t ∈ Node.afterOptions way greedy n s := by
  have stays : ∀ n s, s ∈ Node.afterOptions way greedy n s := by
    intro n s
    cases n with
    | zero => exact List.mem_singleton.mpr rfl
    | succ n => cases greedy <;> simp [Node.afterOptions]
  induction k generalizing n s with
  | zero =>
    cases rounds
    exact stays n _
  | succ k ih =>
    obtain ⟨u, first, rest⟩ := rounds
    obtain ⟨inside, member⟩ := each s u inside first
    obtain ⟨n, rfl⟩ : ∃ m, n = m + 1 := ⟨n - 1, by omega⟩
    have further := List.mem_flatMap.mpr ⟨u, member, ih (Nat.le_of_succ_le_succ few) inside rest⟩
    cases greedy
    · exact List.mem_append_right _ further
    · exact List.mem_append_left _ further

theorem roundsTake {r : Point → Point → Prop} {n : Nat} (each : ∀ s t, r s t → s.pos < t.pos)
    (rounds : Rounds r n s t) : s.pos + n ≤ t.pos := by
  induction n generalizing s with
  | zero =>
    cases rounds
    exact Nat.le_refl _
  | succ n ih =>
    obtain ⟨u, first, rest⟩ := rounds
    have := each s u first
    have := ih rest
    omega

theorem matchOutcomes {a : Node} (solid : a.isSolid = true) (inside : s.pos ≤ text.size)
    (taken : a.Match text s t) : t ∈ a.outcomes text s := by
  induction a generalizing s t with
  | empty => exact List.mem_singleton.mpr taken
  | set a =>
    obtain ⟨c, found, taken, rfl⟩ := taken
    simp [Node.outcomes, found, taken]
  | look l =>
    obtain ⟨holds, rfl⟩ := taken
    simp [Node.outcomes, holds]
  | seq a c iha ihc =>
    obtain ⟨left, right⟩ := (Bool.and_eq_true _ _).mp solid
    obtain ⟨u, first, rest⟩ := taken
    exact List.mem_flatMap.mpr ⟨u, iha left inside first, ihc right (Node.matchInside inside first) rest⟩
  | alt a c iha ihc =>
    obtain ⟨left, right⟩ := (Bool.and_eq_true _ _).mp solid
    exact List.mem_append.mpr (taken.imp (iha left inside) (ihc right inside))
  | group index a ih =>
    cases index with
    | none => exact ih (s := s) solid inside taken
    | some index =>
      obtain ⟨u, inner, rfl⟩ := taken
      exact List.mem_map_of_mem (ih (s := s.save (2 * index)) solid inside inner)
  | repeated min max greedy a ih =>
    obtain ⟨n, enough, most, rounds⟩ := taken
    obtain ⟨k, rfl⟩ := Nat.exists_eq_add_of_le enough
    obtain ⟨u, first, rest⟩ := roundsSplit min rounds
    have between := Node.roundsInside (fun _ _ => Node.matchInside) inside first
    cases max with
    | some max =>
      have each : ∀ s t, s.pos ≤ text.size → a.Match text s t →
          t.pos ≤ text.size ∧ t ∈ a.outcomes text s :=
        fun s t inside taken => ⟨Node.matchInside inside taken, ih solid inside taken⟩
      have few := most max rfl
      exact List.mem_flatMap.mpr ⟨u, roundsReached each inside first,
        optionsReached each (by omega) between rest⟩
    | none =>
      obtain ⟨solid, filled⟩ := (Bool.and_eq_true _ _).mp solid
      have each : ∀ s t, s.pos ≤ text.size → a.Match text s t →
          t.pos ≤ text.size ∧ t ∈ a.outcomes text s :=
        fun s t inside taken => ⟨Node.matchInside inside taken, ih solid inside taken⟩
      have far := roundsTake (fun _ _ => matchTakesSome filled) rest
      have ends := Node.roundsInside (fun _ _ => Node.matchInside) between rest
      exact List.mem_flatMap.mpr ⟨u, roundsReached each inside first,
        optionsReached each (by omega) between rest⟩

/- The outcomes are the ends of the matches. -/
theorem outcomesExact {a : Node} (solid : a.isSolid = true) (inside : s.pos ≤ text.size) :
    t ∈ a.outcomes text s ↔ a.Match text s t :=
  ⟨outcomesMatch, matchOutcomes solid inside⟩

end

section
variable {program : Array Inst} {text : Array Char}

/- Of the code between two places, started at a point: it comes to its end exactly at the
points given, in this order of preference. -/
structure Yields (program : Array Inst) (text : Array Char) (s : Point) (p q : Nat)
    (ts : List Point) : Prop where
  prefers : ∀ {b v}, Preferred program text [s.thread p b] v →
    Preferred program text (ts.map (·.thread q b)) v
  reaches : ∀ {b}, ∀ t ∈ ts, ∃ n, Path program text n (s.thread p b) (t.thread q b)
  ends : ∀ {b}, (∀ t ∈ ts, Ends program text (t.thread q b)) → Ends program text (s.thread p b)

theorem livesPath {n : Nat} {t u : Thread} (path : Path program text n t u)
    (lives : Lives program text u) : Lives program text t := by
  obtain ⟨m, v, rest, accepts⟩ := lives
  exact ⟨n + m, v, path.append rest, accepts⟩

theorem yieldsHere (s : Point) (p : Nat) : Yields program text s p p [s] where
  prefers := id
  reaches := by
    intro b t member
    cases List.mem_singleton.mp member
    exact ⟨0, .here _⟩
  ends := fun each => each s List.mem_cons_self

theorem yieldsNext {s : Point} {p q : Nat} {ts : List Point} {i : Inst}
    (found : program[p]? = some i) (other : i ≠ .accept)
    (next : ∀ b, i.next text (s.thread p b) = ts.map (·.thread q b)) :
    Yields program text s p q ts where
  prefers := by
    intro b v preferred
    rw [← next]
    exact (preferredNext found other).mp preferred
  reaches := by
    intro b t member
    refine ⟨1, .one found ?_⟩
    rw [next]
    exact List.mem_map_of_mem member
  ends := by
    intro b each
    refine endsNext found fun u member => ?_
    rw [next] at member
    obtain ⟨t, belongs, rfl⟩ := List.mem_map.mp member
    exact each t belongs

theorem yieldsTrans {s : Point} {p q r : Nat} {ts : List Point} {g : Point → List Point}
    (first : Yields program text s p q ts) (second : ∀ t ∈ ts, Yields program text t q r (g t)) :
    Yields program text s p r (ts.flatMap g) where
  prefers := by
    intro b v preferred
    rw [List.map_flatMap]
    refine preferredReplaced (fun t member v => (second t member).prefers) ?_ (first.prefers preferred)
    intro t member u belongs lives
    obtain ⟨w, inside, rfl⟩ := List.mem_map.mp belongs
    obtain ⟨n, path⟩ := (second t member).reaches w inside
    exact livesPath path lives
  reaches := by
    intro b w member
    obtain ⟨t, inside, belongs⟩ := List.mem_flatMap.mp member
    obtain ⟨m, path⟩ := first.reaches (b := b) t inside
    obtain ⟨n, more⟩ := (second t inside).reaches w belongs
    exact ⟨m + n, path.append more⟩
  ends := by
    intro b each
    refine first.ends fun t member => (second t member).ends fun w belongs => ?_
    exact each w (List.mem_flatMap.mpr ⟨t, member, belongs⟩)

theorem yieldsFork {s : Point} {p q x y : Nat} {ls rs : List Point}
    (found : program[p]? = some (.fork x y)) (left : Yields program text s x q ls)
    (right : Yields program text s y q rs) : Yields program text s p q (ls ++ rs) where
  prefers := by
    intro b v preferred
    have either := (preferredFirst _ _).mp ((preferredNext found (by simp)).mp preferred)
    rw [List.map_append, preferredAppend]
    refine either.imp left.prefers fun further => ⟨?_, right.prefers further.2⟩
    intro u member lives
    obtain ⟨t, inside, rfl⟩ := List.mem_map.mp member
    obtain ⟨n, path⟩ := left.reaches t inside
    exact further.1 (livesPath path lives)
  reaches := by
    intro b t member
    rcases List.mem_append.mp member with member | member
    · obtain ⟨n, path⟩ := left.reaches (b := b) t member
      exact ⟨n + 1, .step found (nextFork.mpr (.inl rfl)) path⟩
    · obtain ⟨n, path⟩ := right.reaches (b := b) t member
      exact ⟨n + 1, .step found (nextFork.mpr (.inr rfl)) path⟩
  ends := by
    intro b each
    rw [List.forall_mem_append] at each
    refine endsNext found fun u next => ?_
    rcases nextFork.mp next with rfl | rfl
    · exact left.ends each.1
    · exact right.ends each.2

theorem yieldsPreferred {s : Point} {p q stay leave : Nat} {greedy : Bool} {ls rs : List Point}
    (found : program[p]? = some (Node.preferred greedy stay leave))
    (left : Yields program text s stay q ls) (right : Yields program text s leave q rs) :
    Yields program text s p q (if greedy then ls ++ rs else rs ++ ls) := by
  cases greedy with
  | true => exact yieldsFork found left right
  | false => exact yieldsFork found right left

def Serves (program : Array Inst) (text : Array Char) (a : Node) : Prop :=
  ∀ {start s}, Placed program start (a.code start (start + a.size)) → s.pos ≤ text.size →
    Yields program text s start (start + a.size) (a.outcomes text s)

theorem afterRoundsInside {a : Node} {n : Nat} {s t : Point} (inside : s.pos ≤ text.size)
    (member : t ∈ Node.afterRounds (a.outcomes text) n s) : t.pos ≤ text.size :=
  Node.roundsInside (fun _ _ => Node.matchInside) inside
    (roundsOutcomes (fun _ _ => outcomesMatch) member)

theorem requiredYields {a : Node} (body : Serves program text a) (count : Nat) {start : Nat}
    {s : Point} (placed : Placed program start (required a count start))
    (inside : s.pos ≤ text.size) : Yields program text s start (start + count * a.size)
      (Node.afterRounds (a.outcomes text) count s) := by
  induction count generalizing start s with
  | zero => simpa [Node.afterRounds] using yieldsHere s start
  | succ count ih =>
    obtain ⟨here, further⟩ := requiredSucc placed
    have stop : start + (count + 1) * a.size = start + a.size + count * a.size := by
      rw [Nat.succ_mul]; omega
    rw [stop]
    exact yieldsTrans (body here inside) fun t member => ih further (outcomesInside inside member)

theorem optionalYields {a : Node} (body : Serves program text a) {greedy : Bool} {stop : Nat}
    (count : Nat) {start : Nat} {s : Point} (ends : start + count * (a.size + 1) = stop)
    (placed : Placed program start (optional a greedy count start stop))
    (inside : s.pos ≤ text.size) : Yields program text s start stop
      (Node.afterOptions (a.outcomes text) greedy count s) := by
  induction count generalizing start s with
  | zero =>
    have same : start = stop := by simpa using ends
    subst same
    exact yieldsHere s start
  | succ count ih =>
    obtain ⟨fork, here, further⟩ := optionalSucc placed
    rw [Nat.succ_mul] at ends
    have more := yieldsTrans (body here inside) fun t member =>
      ih (by omega) further (outcomesInside inside member)
    exact yieldsPreferred fork more (yieldsHere s stop)

/- Each round of a loop takes a character, so at the end of the text none can be gone. -/
theorem loopYields {a : Node} (body : Serves program text a) (filled : a.takesSome = true)
    {greedy : Bool} {stay leave : Nat} (placed : Placed program stay (a.code stay (stay + a.size)))
    (again : program[stay + a.size]? = some (Node.preferred greedy stay leave)) (count : Nat)
    {p : Nat} {s : Point} (found : program[p]? = some (Node.preferred greedy stay leave))
    (inside : s.pos ≤ text.size) (room : text.size ≤ s.pos + count) :
    Yields program text s p leave (Node.afterOptions (a.outcomes text) greedy count s) := by
  induction count generalizing p s with
  | zero =>
    have none : a.outcomes text s = [] := by
      refine List.eq_nil_iff_forall_not_mem.mpr fun t member => ?_
      have := matchTakesSome filled (outcomesMatch member)
      have := outcomesInside inside member
      omega
    have nowhere : Yields program text s stay leave [] := by
      have here := body placed inside
      rw [none] at here
      exact yieldsTrans (g := fun _ => []) here fun t member => (List.not_mem_nil member).elim
    have either := yieldsPreferred found nowhere (yieldsHere s leave)
    cases greedy <;> exact either
  | succ count ih =>
    have more := yieldsTrans (body placed inside) fun t member => by
      have := matchTakesSome filled (outcomesMatch member)
      exact ih again (outcomesInside inside member) (by omega)
    exact yieldsPreferred found more (yieldsHere s leave)

theorem setYields (c : CharSet) : Serves program text (.set c) := by
  intro start s placed inside
  refine yieldsNext (placedHead placed) (by simp) fun b => ?_
  simp only [Inst.next, Node.outcomes, Point.thread]
  cases text[s.pos]? with
  | none => rfl
  | some d =>
    by_cases taken : c.contains d = true
    · simp [taken, Node.size, Point.advance]
    · simp [taken]

theorem lookYields (l : Look) : Serves program text (.look l) := by
  intro start s placed inside
  refine yieldsNext (placedHead placed) (by simp) fun b => ?_
  simp only [Inst.next, Node.outcomes, Point.thread]
  by_cases holds : l.holds text s.pos = true
  · simp [holds, Node.size]
  · simp [holds]

theorem seqYields {a c : Node} (first : Serves program text a) (second : Serves program text c) :
    Serves program text (.seq a c) := by
  intro start s placed inside
  obtain ⟨here, further⟩ := placedSeq placed
  simp only [Node.size, ← Nat.add_assoc]
  exact yieldsTrans (first here inside) fun t member => second further (outcomesInside inside member)

theorem altYields {a c : Node} (first : Serves program text a) (second : Serves program text c) :
    Serves program text (.alt a c) := by
  intro start s placed inside
  obtain ⟨fork, here, jump, there⟩ := placedAlt placed
  rw [altStop]
  have jumps : ∀ t : Point, Yields program text t (start + 1 + a.size)
      (start + 1 + a.size + 1 + c.size) [t] := fun t => yieldsNext jump (by simp) fun b => rfl
  have left := yieldsTrans (first here inside) fun t _ => jumps t
  rw [List.flatMap_singleton'] at left
  exact yieldsFork fork left (second there inside)

theorem groupYields {a : Node} (index : Nat) (body : Serves program text a) :
    Serves program text (.group (some index) a) := by
  intro start s placed inside
  obtain ⟨opening, inner, closing⟩ := placedGroup placed
  rw [groupStop]
  have opens : Yields program text s start (start + 1) [s.save (2 * index)] :=
    yieldsNext opening (by simp) fun b => rfl
  have closes : ∀ t : Point, Yields program text t (start + 1 + a.size)
      (start + 1 + a.size + 1) [t.save (2 * index + 1)] :=
    fun t => yieldsNext closing (by simp) fun b => rfl
  have within := yieldsTrans (body (s := s.save (2 * index)) inner inside) fun t _ => closes t
  rw [← List.map_eq_flatMap] at within
  have whole := yieldsTrans (g := fun _ => (a.outcomes text (s.save (2 * index))).map
    fun t => t.save (2 * index + 1)) opens fun u member => by
      cases List.mem_singleton.mp member
      exact within
  rwa [List.flatMap_singleton] at whole

theorem boundedYields {min max : Nat} {greedy : Bool} {a : Node} (body : Serves program text a) :
    Serves program text (.repeated min (some max) greedy a) := by
  intro start s placed inside
  obtain ⟨must, may⟩ := placedBounded placed
  rw [boundedStop]
  exact yieldsTrans (requiredYields body min must inside) fun t member =>
    optionalYields body (max - min) rfl may (afterRoundsInside inside member)

theorem starYields {greedy : Bool} {a : Node} (filled : a.takesSome = true)
    (body : Serves program text a) : Serves program text (.repeated 0 none greedy a) := by
  intro start s placed inside
  obtain ⟨fork, inner, again⟩ := placedStar placed
  rw [starStop]
  have loop := loopYields body filled inner again text.size fork inside (by omega)
  simpa only [Node.outcomes, Node.afterRounds, List.flatMap_singleton] using loop

theorem plusYields {min : Nat} {greedy : Bool} {a : Node} (filled : a.takesSome = true)
    (body : Serves program text a) : Serves program text (.repeated (min + 1) none greedy a) := by
  intro start s placed inside
  obtain ⟨must, inner, again⟩ := placedPlus placed
  rw [plusStop]
  refine yieldsTrans (requiredYields body (min + 1) must inside) fun t member => ?_
  rw [← lastRound] at inner again ⊢
  exact loopYields body filled inner again text.size again (afterRoundsInside inside member)
    (by omega)

theorem codeYields {a : Node} (solid : a.isSolid = true) : Serves program text a := by
  induction a with
  | empty => exact fun _ _ => yieldsHere _ _
  | set c => exact setYields c
  | look l => exact lookYields l
  | seq a c iha ihc =>
    obtain ⟨left, right⟩ := (Bool.and_eq_true _ _).mp solid
    exact seqYields (iha left) (ihc right)
  | alt a c iha ihc =>
    obtain ⟨left, right⟩ := (Bool.and_eq_true _ _).mp solid
    exact altYields (iha left) (ihc right)
  | group index a ih =>
    cases index with
    | none => exact fun placed inside => ih solid placed inside
    | some index => exact groupYields index (ih solid)
  | repeated min max greedy a ih =>
    cases max with
    | some max => exact boundedYields (ih solid)
    | none =>
      obtain ⟨body, filled⟩ := (Bool.and_eq_true _ _).mp solid
      cases min with
      | zero => exact starYields filled (ih body)
      | succ min => exact plusYields filled (ih body)

end

/- A search finds the match that starts first, and of those that start there the one that is
preferred. -/
theorem findPreferred {r : Regex} (solid : r.node.isSolid = true) (text : List Char) :
    r.find? text = ((List.range (text.length + 1)).flatMap fun start =>
      (r.node.outcomes text.toArray ⟨start, []⟩).map (·.thread r.node.size start)).head? := by
  obtain ⟨placed, accepts⟩ := programPlaced r.node
  have yields : ∀ start ≤ text.length, Yields r.node.program.toArray text.toArray ⟨start, []⟩ 0
      (0 + r.node.size) (r.node.outcomes text.toArray ⟨start, []⟩) :=
    fun start bound => codeYields solid placed (by simpa using bound)
  rw [Nat.zero_add] at accepts yields
  cases found : r.find? text with
  | none =>
    refine (List.head?_eq_none_iff.mpr (List.flatMap_eq_nil_iff.mpr fun start member => ?_)).symm
    refine List.map_eq_nil_iff.mpr (List.eq_nil_iff_forall_not_mem.mpr fun t outcome => ?_)
    have hit := findComplete (Nat.le_of_lt_succ (List.mem_range.mp member)) (outcomesMatch outcome)
    rw [isMatch, found] at hit
    cases hit
  | some v =>
    rw [find?, r.program_eq] at found
    have stops : ∀ t : Point, ∀ start, Ends r.node.program.toArray text.toArray
        (t.thread r.node.size start) :=
      fun t start => endsNext accepts fun u next => (List.not_mem_nil next).elim
    have ends : ∀ t, Begins text.toArray t → Ends r.node.program.toArray text.toArray t := by
      intro t begins
      rw [beginsThread begins]
      exact (yields t.start (by simpa using begins.2.2.1)).ends fun u _ => stops u _
    have preferred := searchPreferred ends found
    refine (preferredAccepting ?_ (preferredReplaced ?_ ?_ preferred)).symm
    · intro u member
      obtain ⟨start, _, member⟩ := List.mem_flatMap.mp member
      obtain ⟨t, _, rfl⟩ := List.mem_map.mp member
      exact accepts
    · intro start member v
      exact (yields start (by simpa [Nat.lt_succ_iff] using member)).prefers
    · intro start member u outcome lives
      obtain ⟨t, inside, rfl⟩ := List.mem_map.mp outcome
      obtain ⟨n, path⟩ := (yields start (by simpa [Nat.lt_succ_iff] using member)).reaches t inside
      exact livesPath path lives

end Signpost.Regex
