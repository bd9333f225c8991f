import Signpost.Proofs.Regex.Bare
import Signpost.Proofs.Regex.Locality
import Signpost.Proofs.Regex.Reading

/-! An expression put in parentheses. One that has no groups, flags or anchors is read inside
of a group as it is read alone, and the group closes behind its end. -/
namespace Signpost.Regex

/- Only groups that set nothing are open. -/
structure Frame.Bare (f : Frame) : Prop where
  kind : f.kind = .scope []
  parts : ∀ e ∈ f.items ++ f.branches, e.isBare = true

theorem scopeFlags {edit : FlagEdit} {clearing dangling : Bool} {cs rest : Chars}
    (read : readFlags edit clearing dangling cs = .ok (.scope [], rest)) :
    edit = [] ∧ dangling = false ∧ cs = ':' :: rest := by
  induction cs generalizing edit clearing dangling with
  | nil => cases read
  | cons c cs ih =>
    unfold readFlags at read
    split at read
    next colon =>
      split at read
      · cases read
      next steady =>
        cases read
        exact ⟨rfl, by simpa using steady, by rw [eq_of_beq colon]⟩
    split at read
    · repeat' split at read
      all_goals cases read
    split at read
    · split at read
      · cases read
      · obtain ⟨_, steady, _⟩ := ih read
        cases steady
    · split at read
      · cases read
      · split at read
        · cases read
        · obtain ⟨none, _⟩ := ih read
          exact absurd none (List.append_ne_nil_of_right_ne_nil _ (List.cons_ne_nil _ _))

theorem nameCaptures {cs rest : Chars} {opening : Opening} (read : readName cs = .ok (opening, rest)) :
    ∃ name, opening = .capture name := by
  unfold readName at read
  split at read
  · split at read
    · cases read
      exact ⟨_, rfl⟩
    · cases read
  · cases read

theorem scopeOpening {cs rest : Chars} (read : readOpening false cs = .ok (.scope [], rest)) :
    cs = '?' :: ':' :: rest := by
  simp only [readOpening, skipPlain] at read
  split at read
  case h_5 | h_6 =>
    obtain ⟨_, same⟩ := nameCaptures read
    cases same
  case h_7 => rw [(scopeFlags read).2.2]
  all_goals cases read

namespace Reader

structure Bare (r : Reader) : Prop where
  parts : ∀ e ∈ r.items ++ r.branches, e.isBare = true
  frames : ∀ f ∈ r.frames, f.Bare

/- Verbose mode is off and is not to come back. -/
structure Silent (r : Reader) : Prop where
  here : r.verbose = false
  around : ∀ f ∈ r.frames, f.verbose = false

/- The reader with what it has read standing behind the opening of a group. -/
def nest (base r : Reader) : Reader :=
  { r with captures := base.captures, names := base.names, frames := r.frames ++ base.frames }

theorem pushBare {r : Reader} {e : Expr} (bare : (r.push e).Bare) : r.Bare :=
  ⟨fun d member => bare.parts d (List.mem_cons_of_mem e member), bare.frames⟩

theorem openBare {r q : Reader} {opening : Opening} (opened : r.openWith opening = .ok q)
    (bare : q.Bare) : opening = .scope [] ∧ r.Bare := by
  unfold openWith at opened
  split at opened
  next edit =>
    cases opened
    have flags := bare.parts (.flags edit) List.mem_cons_self
    cases flags
  · cases opened
    obtain ⟨kind, parts⟩ := bare.frames _ List.mem_cons_self
    cases kind
    exact ⟨rfl, parts, fun f member => bare.frames f (List.mem_cons_of_mem _ member)⟩
  next name =>
    have captures : ∀ names : List Chars, ¬ ({ r with captures := r.captures + 1, names }.openGroup
        (.capture (r.captures + 1)) r.verbose).Bare := by
      intro names bare
      cases (bare.frames _ List.mem_cons_self).kind
    simp only at opened
    split at opened
    · cases opened
      exact absurd bare (captures r.names)
    · split at opened
      · cases opened
      · cases opened
        exact absurd bare (captures _)

theorem insideBare (r : Reader) :
    r.inside.isBare = true ↔ ∀ e ∈ r.items ++ r.branches, e.isBare = true := by
  rw [inside, Expr.choiceBare, List.forall_mem_cons, Expr.sequenceBare, List.forall_mem_append]

theorem closeBare {r q : Reader} (closes : r.closeGroup = .ok q) (bare : q.Bare) : r.Bare := by
  unfold closeGroup at closes
  split at closes
  · cases closes
  next f frames opened =>
    cases closes
    have group := bare.parts (.group f.kind r.inside) List.mem_cons_self
    cases kind : f.kind with
    | capture index =>
      rw [kind] at group
      cases group
    | scope edit =>
      simp only [kind, Expr.isBare, Bool.and_eq_true, List.isEmpty_iff] at group
      refine ⟨(insideBare r).mp group.2, ?_⟩
      rw [opened]
      intro g member
      rcases List.mem_cons.mp member with rfl | member
      · exact ⟨by rw [kind, group.1], fun e part => bare.parts e (List.mem_cons_of_mem _ part)⟩
      · exact bare.frames g member

theorem repeatBare {r q : Reader} {min : Nat} {max : Option Nat} {cs rest : Chars}
    (read : r.repeatOp min max cs = .ok (q, rest)) (bare : q.Bare) : r.Bare := by
  obtain ⟨p, repeated, same⟩ := okBind read
  cases same
  unfold repeatLast at repeated
  split at repeated
  next last before items =>
    split at repeated
    · cases repeated
      refine ⟨fun e member => ?_, bare.frames⟩
      rw [items] at member
      rcases List.mem_cons.mp member with rfl | member
      · exact bare.parts (.times min max _ e) List.mem_cons_self
      · exact bare.parts e (List.mem_cons_of_mem _ member)
    · cases repeated
  · cases repeated

/- What has been read stays, so it was bare before if it is so after. -/
theorem readBare {r q : Reader} {c : Char} {cs rest : Chars} (read : r.read c cs = .ok (q, rest))
    (bare : q.Bare) : r.Bare := by
  unfold Reader.read at read
  split at read
  · obtain ⟨⟨opening, more⟩, _, read⟩ := okBind read
    obtain ⟨p, opened, same⟩ := okBind read
    cases same
    exact (openBare opened bare).2
  · obtain ⟨p, closes, same⟩ := okBind read
    cases same
    exact closeBare closes bare
  · cases read
    have parts := bare.parts
    rw [nextBranch, List.nil_append, List.forall_mem_cons, Expr.sequenceBare] at parts
    exact ⟨List.forall_mem_append.mpr parts, bare.frames⟩
  · obtain ⟨⟨e, more⟩, _, same⟩ := okBind read
    cases same
    exact pushBare bare
  · exact repeatBare read bare
  · exact repeatBare read bare
  · exact repeatBare read bare
  · obtain ⟨⟨⟨min, max⟩, more⟩, _, read⟩ := okBind read
    exact repeatBare read bare
  · obtain ⟨⟨e, more⟩, _, same⟩ := okBind read
    cases same
    exact pushBare bare
  all_goals
    cases read
    exact pushBare bare

theorem readAllBare {r q : Reader} {fuel : Nat} {cs : Chars} (read : r.readAll fuel cs = .ok q)
    (bare : q.Bare) : r.Bare := by
  induction fuel generalizing r cs with
  | zero =>
    cases read
    exact bare
  | succ fuel ih =>
    simp only [readAll] at read
    split at read
    · cases read
      exact bare
    · obtain ⟨⟨p, rest⟩, taken, read⟩ := okBind read
      exact readBare taken (ih read)

/- What one step does alone it does inside of a group. -/
structure Nested (base q : Reader) (cs rest : Chars)
    (step : Chars → Except Fault (Reader × Chars)) : Prop where
  silent : q.Silent
  shorter : rest.length ≤ cs.length
  same : ∀ more, step (cs ++ ')' :: more) = .ok (base.nest q, rest ++ ')' :: more)

theorem pushNested (base : Reader) {r : Reader} (silent : r.Silent) (e : Expr) (cs : Chars) :
    Nested base (r.push e) cs cs fun cs => .ok ((base.nest r).push e, cs) :=
  ⟨⟨silent.here, silent.around⟩, Nat.le_refl _, fun _ => rfl⟩

theorem takenNested (base : Reader) {r q : Reader} {cs rest : Chars} (silent : r.Silent)
    {take : Chars → Except Fault (Expr × Chars)} (only : Local take)
    (read : (take cs >>= fun (e, rest) => .ok (r.push e, rest)) = .ok (q, rest)) :
    Nested base q cs rest fun cs =>
      take cs >>= fun (e, rest) => .ok ((base.nest r).push e, rest) := by
  obtain ⟨⟨e, left⟩, taken, same⟩ := okBind read
  cases same
  obtain ⟨shorter, same⟩ := only _ _ _ taken
  refine ⟨⟨silent.here, silent.around⟩, shorter, fun more => ?_⟩
  simp only [same]
  rfl

theorem repeatNested (base : Reader) {r q : Reader} {min : Nat} {max : Option Nat} {cs rest : Chars}
    (silent : r.Silent) (read : r.repeatOp min max cs = .ok (q, rest)) :
    Nested base q cs rest ((base.nest r).repeatOp min max) := by
  obtain ⟨p, repeated, same⟩ := okBind read
  cases same
  have shorter : (readGreed cs).2.length ≤ cs.length := by
    unfold readGreed
    split
    · exact Nat.le_succ _
    · exact Nat.le_refl _
  unfold repeatLast at repeated
  split at repeated
  next last before items =>
    split at repeated
    next repeatable =>
      cases repeated
      refine ⟨⟨silent.here, silent.around⟩, shorter, fun more => ?_⟩
      have again : (base.nest r).repeatLast min max (readGreed cs).1 =
          .ok (base.nest { r with items := .times min max (readGreed cs).1 last :: before }) := by
        simp only [repeatLast, nest, items, repeatable, if_true]
      simp only [repeatOp, greedClosed, again, bind, Except.bind]
      rfl
    · cases repeated
  · cases repeated

theorem closeNested (base : Reader) {r q : Reader} (silent : r.Silent)
    (closes : r.closeGroup = .ok q) :
    q.Silent ∧ (base.nest r).closeGroup = .ok (base.nest q) := by
  unfold closeGroup at closes
  split at closes
  · cases closes
  next f frames opened =>
    cases closes
    have around := silent.around
    rw [opened, List.forall_mem_cons] at around
    refine ⟨⟨around.1, around.2⟩, ?_⟩
    have frames : (base.nest r).frames = f :: (frames ++ base.frames) := by
      rw [nest, opened, List.cons_append]
    rw [closeGroup, frames]
    rfl

theorem readNested (base : Reader) {r q : Reader} {c : Char} {cs rest : Chars} (silent : r.Silent)
    (bare : q.Bare) (read : r.read c cs = .ok (q, rest)) :
    Nested base q cs rest ((base.nest r).read c) := by
  have here : (base.nest r).verbose = false := silent.here
  unfold Reader.read at read
  simp only [silent.here] at read
  split at read
  · obtain ⟨⟨opening, left⟩, scope, read⟩ := okBind read
    obtain ⟨p, opened, same⟩ := okBind read
    cases same
    obtain ⟨rfl, _⟩ := openBare opened bare
    cases scopeOpening scope
    cases opened
    refine ⟨⟨silent.here, List.forall_mem_cons.mpr ⟨silent.here, silent.around⟩⟩,
      Nat.le_add_right _ 2, fun more => ?_⟩
    have scope : readOpening false ('?' :: ':' :: (left ++ ')' :: more)) =
        .ok (.scope [], left ++ ')' :: more) := rfl
    simp only [List.cons_append, Reader.read, here, scope, bind, Except.bind]
    rfl
  · obtain ⟨p, closes, same⟩ := okBind read
    cases same
    obtain ⟨silent, again⟩ := closeNested base silent closes
    refine ⟨silent, Nat.le_refl _, fun more => ?_⟩
    simp only [Reader.read, again, bind, Except.bind]
  · cases read
    exact ⟨⟨silent.here, silent.around⟩, Nat.le_refl _, fun _ => rfl⟩
  · have step := takenNested base silent classLocal read
    refine ⟨step.silent, step.shorter, fun more => ?_⟩
    simp only [Reader.read, here]
    exact step.same more
  · exact repeatNested base silent read
  · exact repeatNested base silent read
  · exact repeatNested base silent read
  · obtain ⟨⟨⟨min, max⟩, left⟩, bounds, read⟩ := okBind read
    obtain ⟨shorter, same⟩ := boundsLocal _ _ _ bounds
    have step := repeatNested base silent read
    refine ⟨step.silent, Nat.le_trans step.shorter shorter, fun more => ?_⟩
    simp only [Reader.read, here, same, bind, Except.bind]
    exact step.same more
  · have step := takenNested base silent escapeLocal read
    refine ⟨step.silent, step.shorter, fun more => ?_⟩
    simp only [Reader.read, here]
    exact step.same more
  case h_13 =>
    cases read
    have plain : c ∉ openers := by
      show c ∉ ['(', ')', '|', '[', '?', '*', '+', '\x7b', '\\', '.', '^', '$']
      simp_all
    exact ⟨⟨silent.here, silent.around⟩, Nat.le_refl _, fun more => readPlain plain⟩
  all_goals
    cases read
    exact pushNested base silent _ _

theorem readsNested (base : Reader) {r q : Reader} {fuel : Nat} {cs : Chars} (more : Chars)
    (enough : cs.length ≤ fuel) (silent : r.Silent) (bare : q.Bare)
    (read : r.readAll fuel cs = .ok q) :
    q.Silent ∧ ReadsInside base.frames.length (base.nest r) (cs ++ ')' :: more) (base.nest q)
      (')' :: more) := by
  induction fuel generalizing r cs with
  | zero =>
    cases List.eq_nil_of_length_eq_zero (Nat.le_zero.mp enough)
    cases read
    exact ⟨silent, .stay _ _⟩
  | succ fuel ih =>
    simp only [readAll, silent.here, skipPlain] at read
    cases cs with
    | nil =>
      cases read
      exact ⟨silent, .stay _ _⟩
    | cons c cs =>
      obtain ⟨⟨p, rest⟩, taken, read⟩ := okBind read
      obtain ⟨silent', shorter, same⟩ := readNested base silent (readAllBare read bare) taken
      rw [List.length_cons] at enough
      obtain ⟨silent'', others⟩ := ih (Nat.le_trans shorter (Nat.le_of_succ_le_succ enough)) silent' read
      have less : (rest ++ ')' :: more).length ≤ (cs ++ ')' :: more).length := by
        rw [List.length_append, List.length_append]
        omega
      have deep : base.frames.length ≤ (base.nest p).frames.length :=
        (List.suffix_append p.frames base.frames).length_le
      exact ⟨silent'', .step silent.here (same more) less deep others⟩

/- What could be read as flags or a name is not an expression. -/
theorem captureOpening {text : Chars} {q : Reader}
    (read : ({} : Reader).readAll text.length text = .ok q) (rest : Chars) :
    readOpening false (text ++ ')' :: rest) = .ok (.capture none, text ++ ')' :: rest) := by
  cases text with
  | nil => rfl
  | cons c text =>
    by_cases sign : c = '?'
    · subst sign
      cases read
    · simp [readOpening, skipPlain, sign]

/- The reader behind the parenthesis that opens a group. -/
def inGroup (r : Reader) : Reader :=
  { r with captures := r.captures + 1 }.openGroup (.capture (r.captures + 1)) r.verbose

/- The group of a body stays open up to the end of the body and is closed there. -/
theorem bodySteps {r : Reader} {text : Chars} {e : Expr} (rest : Chars) (silent : r.verbose = false)
    (read : Expr.read text = .ok e) (bare : e.isBare = true) :
    r.read '(' (text ++ ')' :: rest) = .ok (r.inGroup, text ++ ')' :: rest) ∧
      ∃ q : Reader, q.verbose = false ∧ q.frames = r.inGroup.frames ∧
        ReadsInside (r.frames.length + 1) r.inGroup (text ++ ')' :: rest) q (')' :: rest) ∧
        q.read ')' rest = .ok (r.advance [.group (.capture (r.captures + 1)) e] 1, rest) := by
  obtain ⟨q, all, closed, rfl⟩ := readExpr read
  have opens : r.read '(' (text ++ ')' :: rest) = .ok (r.inGroup, text ++ ')' :: rest) := by
    simp only [Reader.read, silent, captureOpening all rest]
    rfl
  have bare : q.Bare := ⟨(insideBare q).mp bare, by simp [closed]⟩
  obtain ⟨still, inside⟩ := readsNested r.inGroup rest (Nat.le_refl _) ⟨rfl, by simp⟩ bare all
  have start : r.inGroup.nest {} = r.inGroup := by
    unfold nest inGroup openGroup
    rw [silent, List.nil_append]
  have frames : (r.inGroup.nest q).frames = r.inGroup.frames := by
    rw [nest, closed, List.nil_append]
  have closes : (r.inGroup.nest q).read ')' rest =
      .ok (r.advance [.group (.capture (r.captures + 1)) q.inside] 1, rest) := by
    simp only [Reader.read, closeGroup, frames]
    rfl
  rw [start] at inside
  exact ⟨opens, r.inGroup.nest q, still.here, frames, inside, closes⟩

theorem readsBody {r : Reader} {text : Chars} {e : Expr} (rest : Chars) (silent : r.verbose = false)
    (read : Expr.read text = .ok e) (bare : e.isBare = true) :
    r.Reads ('(' :: (text ++ ')' :: rest))
      (r.advance [.group (.capture (r.captures + 1)) e] 1) rest := by
  obtain ⟨opens, q, plain, _, inside, closes⟩ := bodySteps rest silent read bare
  have first := readsStep silent opens (Nat.le_refl _)
  have last := readsStep plain closes (Nat.le_refl _)
  exact readsTrans first (readsTrans (insideReads inside) last)

end Reader
end Signpost.Regex
