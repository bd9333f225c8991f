import Signpost.Regex.Basic

/-! Reading a source piece by piece. One reader becomes another on the way from one text to
the rest of it, and such ways are put one behind the other. -/
namespace Signpost.Regex
namespace Reader

/- One reader becomes another step by step, in plain mode, and behind each step at least so many
groups are open. -/
inductive ReadsInside (depth : Nat) : Reader → Chars → Reader → Chars → Prop
  | stay (r : Reader) (cs : Chars) : ReadsInside depth r cs r cs
  | step {r p q : Reader} {c : Char} {cs ds es : Chars} (plain : r.verbose = false)
      (read : r.read c cs = .ok (p, ds)) (shorter : ds.length ≤ cs.length)
      (deep : depth ≤ p.frames.length) (more : ReadsInside depth p ds q es) :
      ReadsInside depth r (c :: cs) q es

def Reads (r : Reader) (cs : Chars) (q : Reader) (rest : Chars) : Prop := ReadsInside 0 r cs q rest

theorem insideReads {depth : Nat} {r q : Reader} {cs rest : Chars}
    (inside : ReadsInside depth r cs q rest) : r.Reads cs q rest := by
  induction inside with
  | stay r cs => exact .stay r cs
  | step plain read shorter _ _ ih => exact .step plain read shorter (Nat.zero_le _) ih

theorem readsTrans {p q r : Reader} {cs ds es : Chars} (first : p.Reads cs q ds)
    (second : q.Reads ds r es) : p.Reads cs r es := by
  induction first with
  | stay q ds => exact second
  | step plain read shorter deep _ ih => exact .step plain read shorter deep (ih second)

theorem readsStep {r q : Reader} {c : Char} {cs rest : Chars} (plain : r.verbose = false)
    (step : r.read c cs = .ok (q, rest)) (shorter : rest.length ≤ cs.length) :
    r.Reads (c :: cs) q rest :=
  .step plain step shorter (Nat.zero_le _) (.stay q rest)

/- With steps enough for the text there are steps enough for the rest. -/
theorem readsOn {r q : Reader} {cs rest : Chars} (reads : r.Reads cs q rest) {fuel : Nat}
    (enough : cs.length ≤ fuel) :
    ∃ left, rest.length ≤ left ∧ r.readAll fuel cs = q.readAll left rest := by
  induction reads generalizing fuel with
  | stay r cs => exact ⟨fuel, enough, rfl⟩
  | step plain read shorter _ _ ih =>
    cases fuel with
    | zero => cases enough
    | succ fuel =>
      obtain ⟨left, more, same⟩ := ih (Nat.le_trans shorter (Nat.le_of_succ_le_succ enough))
      refine ⟨left, more, Eq.trans ?_ same⟩
      simp only [readAll, plain, skipPlain, read]
      rfl

theorem readsEnd {q : Reader} {text : Chars} (reads : ({} : Reader).Reads text q []) :
    ({} : Reader).readAll text.length text = .ok q := by
  obtain ⟨left, _, same⟩ := readsOn reads (Nat.le_refl _)
  rw [same]
  cases left with
  | zero => rfl
  | succ left =>
    have none : skip q.verbose [] = [] := by cases q.verbose <;> rfl
    simp only [readAll, none]

/- The reader behind some further items, so many groups among them. -/
def advance (r : Reader) (items : List Expr) (groups : Nat) : Reader :=
  { r with items := items.reverse ++ r.items, captures := r.captures + groups }

theorem advanceAppend (r : Reader) (first second : List Expr) (m n : Nat) :
    r.advance (first ++ second) (m + n) = (r.advance first m).advance second n := by
  simp [advance, Nat.add_assoc]

theorem readsAppend {r : Reader} {cs ds es : Chars} {first second : List Expr} {m n : Nat}
    (here : r.Reads cs (r.advance first m) ds)
    (there : (r.advance first m).Reads ds ((r.advance first m).advance second n) es) :
    r.Reads cs (r.advance (first ++ second) (m + n)) es := by
  rw [advanceAppend]
  exact readsTrans here there

/- The characters that begin a construct. -/
def openers : List Char := "()|[?*+\x7b\\.^$".toList

theorem readPlain {r : Reader} {c : Char} {cs : Chars} (plain : c ∉ openers) :
    r.read c cs = .ok (r.push (.literal ⟨c, false⟩), cs) := by
  unfold Reader.read
  split
  case h_13 => rfl
  all_goals exact absurd plain (by decide)

theorem readsChar {r : Reader} {c : Char} {cs : Chars} (plain : c ∉ openers)
    (silent : r.verbose = false) : r.Reads (c :: cs) (r.push (.literal ⟨c, false⟩)) cs :=
  readsStep silent (readPlain plain) (Nat.le_refl _)

theorem readsEscaped {r : Reader} {c : Char} {cs : Chars} (sign : c ∈ ['.', '^', '$'])
    (silent : r.verbose = false) :
    r.Reads ('\\' :: c :: cs) (r.push (.literal ⟨c, false⟩)) cs := by
  refine readsStep silent ?_ (Nat.le_succ _)
  simp only [List.mem_cons, List.not_mem_nil, or_false] at sign
  rcases sign with rfl | rfl | rfl <;> rfl

theorem repeatItem {r : Reader} {e : Expr} {min : Nat} {max : Option Nat} {rest : Chars}
    (repeatable : e.repeatable = true) (eager : rest.head? ≠ some '?') :
    (r.push e).repeatOp min max rest = .ok (r.push (.times min max true e), rest) := by
  have greed : readGreed rest = (true, rest) := by
    unfold readGreed
    split
    · exact absurd rfl eager
    · rfl
  have last : (r.push e).repeatLast min max true = .ok (r.push (.times min max true e)) := by
    simp only [repeatLast, push, repeatable, if_true]
  rw [repeatOp, greed]
  simp only [bind, Except.bind, last]

theorem readsPlus {r : Reader} {e : Expr} {rest : Chars} (repeatable : e.repeatable = true)
    (eager : rest.head? ≠ some '?') (silent : r.verbose = false) :
    (r.push e).Reads ('+' :: rest) (r.push (.times 1 none true e)) rest :=
  readsStep silent (repeatItem repeatable eager) (Nat.le_refl _)

theorem readsStar {r : Reader} {e : Expr} {rest : Chars} (repeatable : e.repeatable = true)
    (eager : rest.head? ≠ some '?') (silent : r.verbose = false) :
    (r.push e).Reads ('*' :: rest) (r.push (.times 0 none true e)) rest :=
  readsStep silent (repeatItem repeatable eager) (Nat.le_refl _)

theorem readsOptional {r : Reader} {e : Expr} {rest : Chars} (repeatable : e.repeatable = true)
    (eager : rest.head? ≠ some '?') (silent : r.verbose = false) :
    (r.push e).Reads ('?' :: rest) (r.push (.times 0 (some 1) true e)) rest :=
  readsStep silent (repeatItem repeatable eager) (Nat.le_refl _)

theorem readsClass {r : Reader} {e : Expr} {cs rest : Chars} (silent : r.verbose = false)
    (read : readClass false cs = .ok (e, rest)) (shorter : rest.length ≤ cs.length) :
    r.Reads ('[' :: cs) (r.push e) rest := by
  refine readsStep silent ?_ shorter
  simp only [Reader.read, silent, read]
  rfl

end Reader

theorem readExpr {text : Chars} {e : Expr} (read : Expr.read text = .ok e) :
    ∃ r : Reader, ({} : Reader).readAll text.length text = .ok r ∧ r.frames = [] ∧
      e = r.inside := by
  obtain ⟨r, all, read⟩ := okBind read
  obtain ⟨e', finished, read⟩ := okBind read
  unfold Reader.finish at finished
  split at finished
  next closed =>
    cases finished
    split at read
    · cases read
    · cases read
      exact ⟨r, all, List.isEmpty_iff.mp closed, rfl⟩
  · cases finished

theorem compileSteps {source : String} {regex : Regex} (compiled : Regex.compile source = .ok regex) :
    ∃ r f, ({} : Reader).readAll source.toList.length source.toList = .ok r ∧ r.frames = [] ∧
      r.inside.node {} = .ok (regex.node, f) ∧ regex.source = source := by
  obtain ⟨e, read, compiled⟩ := okBind compiled
  obtain ⟨r, all, closed, rfl⟩ := readExpr read
  obtain ⟨⟨node, f⟩, worked, fitting⟩ := okBind compiled
  simp only at fitting
  split at fitting
  · cases fitting
    exact ⟨r, f, all, closed, worked, rfl⟩
  · cases fitting

theorem readExprOfReads {text : Chars} {items : List Expr} {q : Reader}
    (reads : ({} : Reader).Reads text q []) (closed : q.frames = []) (single : q.branches = [])
    (read : q.items = items) (shallow : (Expr.sequence items).depth ≤ depthLimit) :
    Expr.read text = .ok (Expr.sequence items) := by
  have inside : q.inside = Expr.sequence items := by
    rw [Reader.inside, single, read]
    rfl
  have finished : q.finish = .ok (Expr.sequence items) := by
    simp [Reader.finish, closed, inside]
  rw [Expr.read, Reader.readsEnd reads]
  simp only [bind, Except.bind, finished]
  rw [if_neg (Nat.not_lt.mpr shallow)]

end Signpost.Regex
