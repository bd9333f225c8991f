import Signpost.Proofs.Regex.Search

/-! Which of several acceptances a search finds: the one that is reached by taking, of the
ways open to a thread, always the first that leads to an acceptance. The cells entered before
do not change that as long as no thread comes back to its cell: a thread that is dropped has
been followed to its end already, and in vain. -/
namespace Signpost.Regex

section
variable {program : Array Inst} {text : Array Char}

def Lives (program : Array Inst) (text : Array Char) (t : Thread) : Prop :=
  ∃ n v, Path program text n t v ∧ program[v.pc]? = some .accept

/- The acceptance that is preferred among those of several threads. -/
inductive Preferred (program : Array Inst) (text : Array Char) : List Thread → Thread → Prop where
  | here {t rest} (accepts : program[t.pc]? = some .accept) : Preferred program text (t :: rest) t
  | step {t rest v i} (found : program[t.pc]? = some i)
      (further : Preferred program text (i.next text t) v) : Preferred program text (t :: rest) v
  | later {t rest v} (dead : ¬ Lives program text t) (further : Preferred program text rest v) :
    Preferred program text (t :: rest) v

theorem livesBound {t : Thread} (lives : Lives program text t) : t.pc < program.size := by
  obtain ⟨n, v, path, accepts⟩ := lives
  cases path with
  | here => exact (Array.getElem?_eq_some_iff.mp accepts).1
  | step found _ _ => exact (Array.getElem?_eq_some_iff.mp found).1

theorem livesStep {t u : Thread} {i : Inst} (found : program[t.pc]? = some i)
    (next : u ∈ i.next text t) (lives : Lives program text u) : Lives program text t := by
  obtain ⟨n, v, path, accepts⟩ := lives
  exact ⟨n + 1, v, .step found next path, accepts⟩

theorem livesNext {t : Thread} {i : Inst} (found : program[t.pc]? = some i) (other : i ≠ .accept)
    (lives : Lives program text t) : ∃ u ∈ i.next text t, Lives program text u := by
  obtain ⟨n, v, path, accepts⟩ := lives
  cases path with
  | here => exact absurd (Option.some.inj (found.symm.trans accepts)) other
  | step found' next rest =>
    cases Option.some.inj (found.symm.trans found')
    exact ⟨_, next, _, v, rest, accepts⟩

theorem livesSame {t t' : Thread} (same : SameCell t t') (lives : Lives program text t) :
    Lives program text t' := by
  obtain ⟨n, v, path, accepts⟩ := lives
  induction path generalizing t' with
  | here t => exact ⟨0, t', .here t', by rw [← same.1]; exact accepts⟩
  | step found next _ ih =>
    obtain ⟨u, next', same'⟩ := nextSame same next
    exact livesStep (same.1 ▸ found) next' (ih same' accepts)

theorem preferredFirst (t : Thread) (rest : List Thread) {v : Thread} :
    Preferred program text (t :: rest) v ↔ Preferred program text [t] v ∨
      ¬ Lives program text t ∧ Preferred program text rest v := by
  constructor
  · intro preferred
    cases preferred with
    | here accepts => exact .inl (.here accepts)
    | step found further => exact .inl (.step found further)
    | later dead further => exact .inr ⟨dead, further⟩
  · rintro (preferred | ⟨dead, further⟩)
    · cases preferred with
      | here accepts => exact .here accepts
      | step found further => exact .step found further
      | later _ further => cases further
    · exact .later dead further

theorem preferredAppend {front back : List Thread} {v : Thread} :
    Preferred program text (front ++ back) v ↔ Preferred program text front v ∨
      (∀ t ∈ front, ¬ Lives program text t) ∧ Preferred program text back v := by
  induction front with
  | nil =>
    constructor
    · exact fun preferred => .inr ⟨fun t member => (List.not_mem_nil member).elim, preferred⟩
    · rintro (none | ⟨_, preferred⟩)
      · cases none
      · exact preferred
  | cons t front ih =>
    rw [List.cons_append, preferredFirst t (front ++ back), ih, preferredFirst t front,
      List.forall_mem_cons]
    simp only [and_or_left, or_assoc, and_assoc]

theorem preferredNext {t v : Thread} {i : Inst} (found : program[t.pc]? = some i)
    (other : i ≠ .accept) : Preferred program text [t] v ↔ Preferred program text (i.next text t) v := by
  constructor
  · intro preferred
    cases preferred with
    | here accepts => exact absurd (Option.some.inj (found.symm.trans accepts)) other
    | step found' further =>
      cases Option.some.inj (found.symm.trans found')
      exact further
    | later _ further => cases further
  · exact .step found

/- Of threads that accept, the first is preferred. -/
theorem preferredAccepting {stack : List Thread} {v : Thread}
    (accepting : ∀ t ∈ stack, program[t.pc]? = some .accept)
    (preferred : Preferred program text stack v) : stack.head? = some v := by
  cases preferred with
  | here => rfl
  | step found further =>
    cases Option.some.inj (found.symm.trans (accepting _ List.mem_cons_self))
    cases further
  | later dead _ => exact absurd ⟨0, _, .here _, accepting _ List.mem_cons_self⟩ dead

/- Each thread may be replaced by others that it leads to, in their order. -/
theorem preferredReplaced {α : Type} {items : List α} {f : α → Thread} {g : α → List Thread} {v : Thread}
    (each : ∀ x ∈ items, ∀ v, Preferred program text [f x] v → Preferred program text (g x) v)
    (lives : ∀ x ∈ items, ∀ u ∈ g x, Lives program text u → Lives program text (f x))
    (preferred : Preferred program text (items.map f) v) :
    Preferred program text (items.flatMap g) v := by
  induction items with
  | nil => exact preferred
  | cons x items ih =>
    rw [List.forall_mem_cons] at each lives
    rw [List.map_cons, preferredFirst] at preferred
    rw [List.flatMap_cons, preferredAppend]
    refine preferred.imp (each.1 v) fun further => ?_
    exact ⟨fun u member lively => further.1 (lives.1 u member lively),
      ih each.2 lives.2 further.2⟩

/- What a thread in one cell can do next, but for what it saves. -/
def Onward (program : Array Inst) (text : Array Char) (q p : Nat × Nat) : Prop :=
  ∃ (i : Inst) (t u : Thread), program[t.pc]? = some i ∧ u ∈ i.next text t ∧
    (t.pc, t.pos) = p ∧ (u.pc, u.pos) = q

/- A thread that cannot go on for ever. -/
def Ends (program : Array Inst) (text : Array Char) (t : Thread) : Prop :=
  Acc (Onward program text) (t.pc, t.pos)

theorem endsNext {t : Thread} {i : Inst} (found : program[t.pc]? = some i)
    (each : ∀ u ∈ i.next text t, Ends program text u) : Ends program text t := by
  refine Acc.intro _ fun q onward => ?_
  obtain ⟨j, t', u, found', next, same, rfl⟩ := onward
  have same : SameCell t' t := Prod.mk.inj same
  rw [same.1] at found'
  cases Option.some.inj (found.symm.trans found')
  obtain ⟨u', next', same'⟩ := nextSame same next
  have ends := each u' next'
  rwa [Ends, ← same'.1, ← same'.2] at ends

/- What holds of a thread whenever it holds of the next ones. -/
theorem endsInduction {motive : Thread → Prop}
    (step : ∀ t, Ends program text t →
      (∀ {i u}, program[t.pc]? = some i → u ∈ i.next text t → motive u) → motive t)
    {t : Thread} (ends : Ends program text t) : motive t := by
  have whole : ∀ p, Acc (Onward program text) p → ∀ t : Thread, (t.pc, t.pos) = p → motive t := by
    intro p acc
    induction acc with
    | intro p earlier ih =>
      rintro t rfl
      refine step t (Acc.intro _ earlier) fun found next => ?_
      exact ih _ ⟨_, t, _, found, next, rfl, rfl⟩ _ rfl
  exact whole _ ends t rfl

/- Such a thread does not come back to its cell. -/
theorem endsApart {t u w : Thread} {i : Inst} {n : Nat} (ends : Ends program text t)
    (found : program[t.pc]? = some i) (next : u ∈ i.next text t) (path : Path program text n u w) :
    ¬ SameCell t w := by
  refine endsInduction (motive := fun t => ∀ {i u w n}, program[t.pc]? = some i → u ∈ i.next text t →
    Path program text n u w → ¬ SameCell t w) (fun t _ ih => ?_) ends found next path
  intro i u w n found next path same
  -- The step that leads to `u` can be gone once more from `w`, so `u` comes back as well.
  obtain ⟨u', next', same'⟩ := nextSame same next
  have path' := path.append (Path.one (same.1 ▸ found) next')
  cases path' with
  | step found₁ next₁ rest => exact ih found next found₁ next₁ rest same'

/- No cell that was entered matters to the thread: nothing can come of it. -/
def Clean (program : Array Inst) (text : Array Char) (entered : Entered) (t : Thread) : Prop :=
  ∀ n u, Path program text n t u → u.pc < program.size →
    entered.contains (cell program u) = true → ¬ Lives program text u

structure Grows (program : Array Inst) (text : Array Char) (before behind : Entered) : Prop where
  buckets : 0 < behind.buckets.size
  vain : ∀ u, u.pc < program.size → behind.contains (cell program u) = true →
    before.contains (cell program u) = true ∨ ¬ Lives program text u

theorem cleanGrown {before behind : Entered} {t : Thread} (clean : Clean program text before t)
    (grows : Grows program text before behind) : Clean program text behind t := by
  intro n u path bound inside
  exact (grows.vain u bound inside).elim (clean n u path bound) id

theorem grownTrans {first second third : Entered} (grows : Grows program text first second)
    (more : Grows program text second third) : Grows program text first third where
  buckets := more.buckets
  vain := fun u bound inside => (more.vain u bound inside).elim (grows.vain u bound) .inr

/- The run goes on with the rest, and nothing came of what was entered in between. -/
def GoesOn (program : Array Inst) (text : Array Char) (entered : Entered) (rest : List Thread)
    (v : Thread) : Prop :=
  ∃ fuel entered', Grows program text entered entered' ∧ run program text fuel entered' rest = some v

theorem goesOnSame {fuel : Nat} {entered : Entered} {rest : List Thread} {v : Thread}
    (buckets : 0 < entered.buckets.size) (ran : run program text fuel entered rest = some v) :
    GoesOn program text entered rest v :=
  ⟨fuel, entered, ⟨buckets, fun _ _ => .inl⟩, ran⟩

theorem goesOnGrown {before behind : Entered} {rest : List Thread} {v : Thread}
    (grows : Grows program text before behind) (further : GoesOn program text behind rest v) :
    GoesOn program text before rest v := by
  obtain ⟨fuel, entered, more, ran⟩ := further
  exact ⟨fuel, entered, grownTrans grows more, ran⟩

/- A run that has come to the thread finds the acceptance preferred there, or goes on behind
it when there is none. -/
def Settles (program : Array Inst) (text : Array Char) (t : Thread) : Prop :=
  ∀ {fuel entered rest v}, 0 < entered.buckets.size → Clean program text entered t →
    run program text fuel entered (t :: rest) = some v →
      Preferred program text [t] v ∨ ¬ Lives program text t ∧ GoesOn program text entered rest v

theorem settlesAll {us : List Thread} (each : ∀ u ∈ us, Settles program text u)
    {fuel : Nat} {entered : Entered} {rest : List Thread} {v : Thread}
    (buckets : 0 < entered.buckets.size) (clean : ∀ u ∈ us, Clean program text entered u)
    (ran : run program text fuel entered (us ++ rest) = some v) :
    Preferred program text us v ∨
      (∀ u ∈ us, ¬ Lives program text u) ∧ GoesOn program text entered rest v := by
  induction us generalizing fuel entered with
  | nil => exact .inr ⟨fun u member => (List.not_mem_nil member).elim, goesOnSame buckets ran⟩
  | cons u us ih =>
    rw [List.forall_mem_cons] at each clean
    rw [preferredFirst]
    rcases each.1 buckets clean.1 ran with here | ⟨dead, fuel', entered', grows, ran'⟩
    · exact .inl (.inl here)
    rcases ih each.2 grows.buckets (fun w member => cleanGrown (clean.2 w member) grows) ran' with
      there | ⟨others, further⟩
    · exact .inl (.inr ⟨dead, there⟩)
    · exact .inr ⟨List.forall_mem_cons.mpr ⟨dead, others⟩, goesOnGrown grows further⟩

theorem cleanNext {entered : Entered} {t u : Thread} {i : Inst} (buckets : 0 < entered.buckets.size)
    (ends : Ends program text t) (found : program[t.pc]? = some i) (next : u ∈ i.next text t)
    (clean : Clean program text entered t) :
    Clean program text (entered.insert (cell program t)) u := by
  intro n w path bound inside
  rw [Entered.containsInsert buckets, Bool.or_eq_true, decide_eq_true_eq] at inside
  rcases inside with same | old
  · have here := (Array.getElem?_eq_some_iff.mp found).1
    exact absurd (sameOfCell here bound same.symm) (endsApart ends found next path)
  · exact clean (n + 1) w (.step found next path) bound old

theorem grownInsert {entered : Entered} {t : Thread} (buckets : 0 < entered.buckets.size)
    (place : t.pc < program.size) (dead : ¬ Lives program text t) :
    Grows program text entered (entered.insert (cell program t)) where
  buckets := by rwa [Entered.sizeInsert]
  vain := by
    intro u bound inside
    rw [Entered.containsInsert buckets, Bool.or_eq_true, decide_eq_true_eq] at inside
    rcases inside with same | old
    · exact .inr fun lives => dead (livesSame (sameOfCell bound place same) lives)
    · exact .inl old

theorem settles {t : Thread} (ends : Ends program text t) : Settles program text t := by
  refine endsInduction (motive := Settles program text) (fun t ends ih => ?_) ends
  intro fuel entered rest v buckets clean ran
  cases fuel with
  | zero => cases ran
  | succ fuel =>
    simp only [run] at ran
    split at ran
    next old =>
      have dead : ¬ Lives program text t := fun lives =>
        clean 0 t (.here t) (livesBound lives) old lives
      exact .inr ⟨dead, goesOnSame buckets ran⟩
    split at ran
    next accepts =>
      cases Option.some.inj ran
      exact .inl (.here accepts)
    next i other found =>
      rcases settlesAll (fun u next => ih found next) (by rwa [Entered.sizeInsert])
        (fun u next => cleanNext buckets ends found next clean) ran with preferred | ⟨vain, further⟩
      · exact .inl (.step found preferred)
      · have dead : ¬ Lives program text t := by
          intro lives
          obtain ⟨u, next, lives⟩ := livesNext found (fun same => other (by rw [same])) lives
          exact vain u next lives
        have here := (Array.getElem?_eq_some_iff.mp found).1
        exact .inr ⟨dead, goesOnGrown (grownInsert buckets here dead) further⟩
    next outside =>
      have dead : ¬ Lives program text t := by
        intro lives
        rw [Array.getElem?_eq_getElem (livesBound lives)] at outside
        cases outside
      exact .inr ⟨dead, goesOnSame buckets ran⟩

/- What a search finds is preferred, if no thread can go on for ever. -/
theorem searchPreferred (ends : ∀ t, Begins text t → Ends program text t) {v : Thread}
    (found : search program text = some v) : Preferred program text (starts text) v := by
  rw [search, ← List.append_nil (starts text)] at found
  rcases settlesAll (fun t member => settles (ends t (memStarts.mp member))) (Entered.sizeEmpty _)
    (fun t _ n u _ _ inside => by rw [Entered.containsEmpty] at inside; cases inside) found with
    preferred | ⟨_, fuel, entered, _, ran⟩
  · exact preferred
  · cases fuel <;> cases ran

end
end Signpost.Regex
