import Signpost.Proofs.Route.Ahead

/-! The last item of a source. The tail is read as it stands, or the verbose mode has made a
comment of all of it. -/
namespace Signpost.Regex
open Route (tailSource)

namespace Reader

/- What a construct leaves: the tail, the tail without its first parenthesis, or nothing. All
is gone where a comment has begun or a group has opened last. -/
def Leftover (n : Nat) (r : Reader) (rest : Chars) : Prop :=
  Behind n rest ∨ (rest = [] ∧ (r.verbose = true ∨ r.frames ≠ []))

theorem repeatOpKeeps {r r' : Reader} {min max cs rest}
    (read : r.repeatOp min max cs = .ok (r', rest)) :
    r'.verbose = r.verbose ∧ rest = (readGreed cs).2 := by
  obtain ⟨q, repeated, last⟩ := okBind read
  cases last
  unfold repeatLast at repeated
  split at repeated
  · split at repeated
    · cases repeated
      exact ⟨rfl, rfl⟩
    · cases repeated
  · cases repeated

theorem openWithFrames {r r' : Reader} {name}
    (opened : r.openWith (.capture name) = .ok r') : r'.frames ≠ [] := by
  unfold openWith at opened
  cases name with
  | none =>
    cases opened
    exact List.cons_ne_nil _ _
  | some name =>
    simp only at opened
    split at opened
    · cases opened
    · cases opened
      exact List.cons_ne_nil _ _

theorem readLeaves {n c cs} {r r' : Reader} {rest} (ahead : Ahead n cs)
    (read : r.read c cs = .ok (r', rest)) : Leftover n r' rest := by
  have kept : ∀ {min max}, r.repeatOp min max cs = .ok (r', rest) → Leftover n r' rest := by
    intro min max read
    rw [(repeatOpKeeps read).2]
    exact .inl (.inl (aheadGreed ahead))
  unfold Reader.read at read
  split at read
  · obtain ⟨⟨opening, more⟩, inner, read⟩ := okBind read
    obtain ⟨q, opened, last⟩ := okBind read
    cases last
    rcases aheadOpening ahead inner with ahead | ⟨rfl, rfl⟩
    · exact .inl (.inl ahead)
    · exact .inr ⟨rfl, .inr (openWithFrames opened)⟩
  · obtain ⟨q, _, last⟩ := okBind read
    cases last
    exact .inl (.inl ahead)
  · cases read
    exact .inl (.inl ahead)
  · obtain ⟨⟨e, more⟩, inner, last⟩ := okBind read
    cases last
    exact .inl (.inl (aheadClass ahead inner))
  · exact kept read
  · exact kept read
  · exact kept read
  · obtain ⟨⟨⟨min, max⟩, more⟩, inner, read⟩ := okBind read
    obtain ⟨same, rfl⟩ := repeatOpKeeps read
    rcases aheadSkip r.verbose (aheadBounds ahead inner) with ahead | ⟨nothing, verbose⟩
    · exact .inl (.inl (aheadGreed ahead))
    · refine .inr ⟨?_, .inl (same.trans verbose)⟩
      rw [nothing]
      rfl
  · obtain ⟨⟨e, more⟩, inner, last⟩ := okBind read
    cases last
    exact .inl (behindEscape ahead inner)
  all_goals
    cases read
    exact .inl (.inl ahead)

theorem readAllSkip {r : Reader} {fuel cs ds} (same : skip r.verbose cs = skip r.verbose ds) :
    r.readAll (fuel + 1) cs = r.readAll (fuel + 1) ds := by
  simp only [readAll, same]

theorem readAllNil (r : Reader) (fuel : Nat) : r.readAll fuel [] = .ok r := by
  cases fuel with
  | zero => rfl
  | succ fuel =>
    have none : skip r.verbose [] = [] := by cases r.verbose <;> rfl
    simp only [readAll, none]

theorem readAllCons {r q : Reader} {fuel c cs rest} (here : skip r.verbose (c :: cs) = c :: cs)
    (step : r.read c cs = .ok (q, rest)) : r.readAll (fuel + 1) (c :: cs) = q.readAll fuel rest := by
  simp only [readAll, here, step]
  rfl

/- The last anchor stands behind the group of the fragment, the last group of all. -/
def Tailed (r : Reader) : Prop :=
  ∃ fragment before, r.items =
    .anchor .lineEnd :: .times 0 (some 1) true (.group (.capture r.captures) fragment) :: before

/- The second half of the tail, read as it stands. In verbose mode its number sign begins a
comment, which leaves the class open. -/
theorem readFragment {fuel} {r r' : Reader}
    (read : r.readAll (fuel + 8) "([#].*)?$".toList = .ok r') : r'.Tailed := by
  obtain ⟨verbose, captures, names, branches, items, frames⟩ := r
  cases verbose with
  | true =>
    have stuck : Reader.readAll ⟨true, captures, names, branches, items, frames⟩ (fuel + 8)
        "([#].*)?$".toList = .error .unclosedClass := rfl
    rw [stuck] at read
    cases read
  | false =>
    have whole : ∃ fragment, Reader.readAll ⟨false, captures, names, branches, items, frames⟩
        (fuel + 8) "([#].*)?$".toList = .ok ⟨false, captures + 1, names, branches,
          .anchor .lineEnd ::
            .times 0 (some 1) true (.group (.capture (captures + 1)) fragment) :: items,
          frames⟩ := ⟨_, rfl⟩
    obtain ⟨fragment, whole⟩ := whole
    rw [whole] at read
    cases read
    exact ⟨fragment, items, rfl⟩

theorem readInside {fuel} {r r' : Reader} (read : r.readAll (fuel + 13) tailInside = .ok r') :
    r'.Tailed := by
  obtain ⟨verbose, captures, names, branches, items, frames⟩ := r
  cases frames with
  | nil =>
    have stuck : Reader.readAll ⟨verbose, captures, names, branches, items, []⟩ (fuel + 13)
        tailInside = .error .unopenedGroup := by
      cases verbose <;> rfl
    rw [stuck] at read
    cases read
  | cons frame frames =>
    obtain ⟨kind, outside, outer, before⟩ := frame
    have on : Reader.readAll ⟨verbose, captures, names, branches, items,
        ⟨kind, outside, outer, before⟩ :: frames⟩ (fuel + 13) tailInside =
      Reader.readAll ⟨outside, captures, names, outer,
        .times 0 (some 1) true (.group kind (.choice (Expr.sequence (.times 0 none true .dot ::
          .bracket false (.literal ⟨'?', false⟩) :: items) :: branches))) :: before, frames⟩
        (fuel + 8) "([#].*)?$".toList := by
      cases verbose <;> cases outside <;> rfl
    rw [on] at read
    exact readFragment read

theorem readTail {fuel} {r r' : Reader} (read : r.readAll (fuel + 14) tailSource = .ok r') :
    r'.Tailed := by
  have opened : r.read '(' tailInside = .ok
      ({ r with captures := r.captures + 1 }.openGroup (.capture (r.captures + 1)) r.verbose,
        tailInside) := by
    obtain ⟨verbose, captures, names, branches, items, frames⟩ := r
    cases verbose <;> rfl
  rw [tailOpens, readAllCons (skipTail r.verbose (by decide)) opened] at read
  exact readInside read

theorem readWhole {fuel cs} {r r' : Reader} (same : skip r.verbose cs = tailSource)
    (read : r.readAll (fuel + 14) cs = .ok r') : r'.Tailed := by
  have plain : skip r.verbose tailSource = tailSource := skipTail r.verbose (by decide)
  rw [readAllSkip (same.trans plain.symm)] at read
  exact readTail read

theorem readAllTaken {r r' : Reader} {fuel cs c rest} (found : skip r.verbose cs = c :: rest)
    (read : r.readAll (fuel + 1) cs = .ok r') :
    ∃ q rest', r.read c rest = .ok (q, rest') ∧ q.readAll fuel rest' = .ok r' := by
  simp only [readAll, found] at read
  obtain ⟨⟨q, rest'⟩, taken, read⟩ := okBind read
  exact ⟨q, rest', taken, read⟩

/- However the source begins, its last item is the last anchor of the tail, unless a comment
has taken the tail. -/
theorem readAllEnds {n cs} {r r' : Reader} (fuel : Nat) (ahead : Ahead n cs)
    (read : r.readAll (n + fuel + 14) cs = .ok r') (closed : r'.frames = []) :
    r'.verbose = true ∨ r'.Tailed := by
  induction n generalizing fuel cs r with
  | zero =>
    obtain ⟨front, bound, rfl⟩ := ahead
    have empty : front = [] := List.length_eq_zero_iff.mp (Nat.le_zero.mp bound)
    rw [empty, List.nil_append] at read
    exact .inr (readWhole (skipTail r.verbose (by decide)) read)
  | succ n ih =>
    have more : n + 1 + fuel + 14 = n + fuel + 14 + 1 := by omega
    rw [more] at read
    rcases aheadSkip r.verbose ahead with skipped | ⟨nothing, verbose⟩
    · cases found : skip r.verbose cs with
      | nil =>
        rw [found] at skipped
        exact absurd skipped aheadNil
      | cons c rest =>
        rw [found] at skipped
        rcases aheadCons skipped with ⟨rfl, rfl⟩ | ⟨m, step, behind⟩
        · exact .inr (readWhole found read)
        · obtain ⟨q, rest', taken, read⟩ := readAllTaken found read
          have left := readLeaves (aheadMore behind (by omega) : Ahead n rest) taken
          rcases left with (ahead | rfl) | ⟨rfl, last⟩
          · exact ih fuel ahead read
          · have enough : n + fuel + 14 = n + fuel + 1 + 13 := by omega
            rw [enough] at read
            exact .inr (readInside read)
          · rw [readAllNil] at read
            cases read
            rcases last with verbose | opened
            · exact .inl verbose
            · exact absurd closed opened
    · have stopped : r.readAll (n + fuel + 14 + 1) cs = .ok r := by
        simp only [readAll, nothing]
      rw [stopped] at read
      cases read
      exact .inl verbose

end Reader
end Signpost.Regex
