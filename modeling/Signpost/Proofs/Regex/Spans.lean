import Signpost.Proofs.Regex.Nesting
import Signpost.Proofs.Regex.Numbering

/-! Where the capture groups of a source stand in it. A group reaches from its parenthesis to
the one that closes it, and what lies between is its body. -/
namespace Signpost.Regex

/- The text from the first parenthesis on, and the text behind the last one. -/
structure Place where
  opening : Chars
  behind : Chars
  deriving DecidableEq, Repr

structure Span where
  index : Nat
  body : Expr
  place : Place

namespace Reader

/- The group that a character closes; `opened` holds the texts from the parentheses on that
are still open, the innermost first. -/
def closed (r : Reader) (opened : List Chars) (c : Char) (behind : Chars) : List Span :=
  match c, r.frames, opened with
  | ')', ⟨.capture index, _, _, _⟩ :: _, opening :: _ =>
    [⟨index, r.inside, ⟨opening, behind⟩⟩]
  | _, _, _ => []

/- The groups that are closed while a text is read. -/
def spans (r : Reader) (opened : List Chars) : Nat → Chars → List Span
  | 0, _ => []
  | fuel + 1, cs =>
    match skip r.verbose cs with
    | [] => []
    | c :: rest =>
      match r.read c rest with
      | .error _ => []
      | .ok (q, left) =>
        let still := ((c :: rest) :: opened).drop (opened.length + 1 - q.frames.length)
        r.closed opened c left ++ q.spans still fuel left

theorem closedCaptured {r q : Reader} {opened : List Chars} {c : Char} {rest left : Chars}
    (read : r.read c rest = .ok (q, left)) :
    ∀ span ∈ r.closed opened c left, (span.index, span.body) ∈ q.captured := by
  intro span member
  unfold closed at member
  split at member
  next index _ _ _ _ _ _ frames =>
    cases List.mem_singleton.mp member
    obtain ⟨p, closes, same⟩ := okBind (show r.closeGroup >>= _ = _ from read)
    cases same
    obtain ⟨f, others, opened, _, _, groups⟩ := closeCaptured closes
    cases frames.symm.trans opened
    exact groups.symm.subset List.mem_cons_self
  · cases member

/- Each span is a group of the expression, by induction on the steps. -/
theorem spansCaptured {r q : Reader} {opened : List Chars} {fuel : Nat} {cs : Chars}
    (read : r.readAll fuel cs = .ok q) :
    ∀ span ∈ r.spans opened fuel cs, (span.index, span.body) ∈ q.captured := by
  induction fuel generalizing r opened cs with
  | zero => exact fun span member => nomatch member
  | succ fuel ih =>
    intro span member
    simp only [readAll] at read
    simp only [spans] at member
    split at read
    next none =>
      rw [none] at member
      cases member
    next c rest found =>
      obtain ⟨⟨p, left⟩, taken, read⟩ := okBind read
      rw [found] at member
      simp only [taken] at member
      rcases List.mem_append.mp member with here | later
      · exact (readAllKeeps read).1 (closedCaptured taken span here)
      · exact ih read span later

/- While at least as many groups as `base` has are open, the openings in `base` stay. A stretch
that ends with no more open than these leaves just them, and what is closed behind it is listed. -/
theorem spansInside {depth : Nat} {r q : Reader} {cs rest : Chars}
    (inside : ReadsInside depth r cs q rest) {base opened : List Chars} (height : base.length = depth)
    (kept : base <:+ opened) (level : opened.length ≤ r.frames.length)
    (back : q.frames.length = depth) {fuel : Nat} (enough : cs.length ≤ fuel) :
    ∃ left, rest.length ≤ left ∧ q.spans base left rest ⊆ r.spans opened fuel cs := by
  induction inside generalizing opened fuel with
  | stay q rest =>
    have same : base = opened := kept.eq_of_length_le (by omega)
    exact ⟨fuel, enough, same ▸ List.Subset.refl _⟩
  | @step r p q c cs ds es plain read shorter deep _ ih =>
    cases fuel with
    | zero => cases enough
    | succ fuel =>
      let still := ((c :: cs) :: opened).drop (opened.length + 1 - p.frames.length)
      have count : still.length = opened.length + 1 - (opened.length + 1 - p.frames.length) :=
        List.length_drop
      have bound := kept.length_le
      have stays : base <:+ still :=
        List.suffix_of_suffix_length_le (kept.trans (List.suffix_cons _ _)) (List.drop_suffix _ _)
          (by omega)
      obtain ⟨left, more, listed⟩ :=
        ih stays (by omega) back (Nat.le_trans shorter (Nat.le_of_succ_le_succ enough))
      have here : r.spans opened (fuel + 1) (c :: cs) = r.closed opened c ds ++ p.spans still fuel ds := by
        simp only [spans, plain, skipPlain, read]
        rfl
      rw [here]
      exact ⟨left, more, List.subset_append_of_subset_right _ listed⟩

theorem spansOutside {r q : Reader} {cs rest : Chars} (reads : r.Reads cs q rest)
    (outer : r.frames = []) (back : q.frames = []) {fuel : Nat} (enough : cs.length ≤ fuel) :
    ∃ left, rest.length ≤ left ∧ q.spans [] left rest ⊆ r.spans [] fuel cs :=
  spansInside reads List.length_nil (List.suffix_refl []) (by simp [outer]) (by simp [back]) enough

/- A text between parentheses of its own is read to its end inside of the group they open. -/
def Enclosed (text : Chars) : Prop :=
  ∀ (r : Reader) (rest : Chars), r.verbose = false →
    r.read '(' (text ++ ')' :: rest) = .ok (r.inGroup, text ++ ')' :: rest) ∧
      ∃ q : Reader, q.verbose = false ∧ q.frames = r.inGroup.frames ∧
        ReadsInside (r.frames.length + 1) r.inGroup (text ++ ')' :: rest) q (')' :: rest)

theorem bareEnclosed {text : Chars} {e : Expr} (read : Expr.read text = .ok e)
    (bare : e.isBare = true) : Enclosed text := by
  intro r rest silent
  obtain ⟨opens, q, plain, frames, inside, _⟩ := bodySteps rest silent read bare
  exact ⟨opens, q, plain, frames, inside⟩

theorem opensSpans {r : Reader} {opened : List Chars} {cs left : Chars} {fuel : Nat}
    (silent : r.verbose = false) (level : opened.length = r.frames.length)
    (opens : r.read '(' cs = .ok (r.inGroup, left)) :
    r.spans opened (fuel + 1) ('(' :: cs) = r.inGroup.spans (('(' :: cs) :: opened) fuel left := by
  have none : opened.length + 1 - r.inGroup.frames.length = 0 := by
    rw [level]
    exact Nat.sub_self _
  simp only [spans, silent, skipPlain, opens, none, List.drop_zero]
  rfl

theorem closesSpans {r q : Reader} {opening : Chars} {opened : List Chars} {rest : Chars} {fuel : Nat}
    (plain : q.verbose = false) (frames : q.frames = r.inGroup.frames) :
    ⟨r.captures + 1, q.inside, ⟨opening, rest⟩⟩ ∈
      q.spans (opening :: opened) (fuel + 1) (')' :: rest) := by
  obtain ⟨p, closes⟩ : ∃ p, q.read ')' rest = .ok (p, rest) := by
    simp only [Reader.read, closeGroup, frames]
    exact ⟨_, rfl⟩
  have closed : q.closed (opening :: opened) ')' rest =
      [⟨r.captures + 1, q.inside, ⟨opening, rest⟩⟩] := by
    unfold Reader.closed
    rw [frames]
    rfl
  simp only [spans, plain, skipPlain, closes, closed]
  exact List.mem_append_left _ List.mem_cons_self

/- The group of an enclosed text reaches from its parenthesis to the end of the text. -/
theorem enclosedListed {r : Reader} {text : Chars} {opened : List Chars} (rest : Chars)
    (enclosed : Enclosed text) (silent : r.verbose = false)
    (level : opened.length = r.frames.length) {fuel : Nat}
    (enough : ('(' :: (text ++ ')' :: rest)).length ≤ fuel) :
    ∃ body, ⟨r.captures + 1, body, ⟨'(' :: (text ++ ')' :: rest), rest⟩⟩ ∈
      r.spans opened fuel ('(' :: (text ++ ')' :: rest)) := by
  obtain ⟨opens, q, plain, frames, inside⟩ := enclosed r rest silent
  cases fuel with
  | zero => cases enough
  | succ fuel =>
    have height : (('(' :: (text ++ ')' :: rest)) :: opened).length = r.frames.length + 1 :=
      congrArg (· + 1) level
    have back : q.frames.length = r.frames.length + 1 := by rw [frames]; rfl
    obtain ⟨left, more, listed⟩ := spansInside inside height (List.suffix_refl _)
      (Nat.le_of_eq height) back (Nat.le_of_succ_le_succ enough)
    cases left with
    | zero => cases more
    | succ left =>
      rw [opensSpans silent level opens]
      exact ⟨q.inside, listed (closesSpans plain frames)⟩

end Reader

def groupSpans (source : Chars) : List Span := ({} : Reader).spans [] source.length source

/- How many groups are opened. -/
def groupTotal (source : Chars) : Nat :=
  match ({} : Reader).readAll source.length source with
  | .error _ => 0
  | .ok r => r.captures

/- Verbose mode is off at the end of the source. An expression that ends in `[#].*)?$` is
accepted with it on only if a comment hides this end: the `#` would start one inside the class. -/
def endsOutside (source : Chars) : Bool :=
  match ({} : Reader).readAll source.length source with
  | .error _ => false
  | .ok r => !r.verbose

/- What the group of a span took of the text when it was last gone through, or nothing if it
took no part. -/
inductive Span.Takes (span : Span) (text : List Char) (marks : Slots) : List Char → Prop
  | never (silent : Silent span.index marks) : Takes span text marks []
  | last {f f' node lo hi} (body : span.body.node f = .ok (node, f'))
      (took : TookLast text.toArray marks span.index node lo hi) :
      Takes span text marks ((text.drop lo).take (hi - lo))

end Signpost.Regex
