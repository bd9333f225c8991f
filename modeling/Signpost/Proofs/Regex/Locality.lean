import Mathlib.Data.List.TakeWhile
import Signpost.Proofs.Text.Fields
import Signpost.Regex.Reader

/-! Reading in front of a closing parenthesis. Outside of verbose mode what a text is read as
does not change when a closing parenthesis and anything else is put behind it: no construct
looks past the parenthesis of the group it stands in. -/
namespace Signpost.Regex
open Unicode (isBlank)

def Local {α : Type} (read : Chars → Except Fault (α × Chars)) : Prop :=
  ∀ cs x rest, read cs = .ok (x, rest) → rest.length ≤ cs.length ∧
    ∀ more, read (cs ++ ')' :: more) = .ok (x, rest ++ ')' :: more)

section
variable {α β : Type}

theorem localPure (x : α) : Local fun cs => .ok (x, cs) := by
  intro cs y rest read
  cases read
  exact ⟨Nat.le_refl _, fun more => rfl⟩

theorem localFail (fault : Fault) : Local fun _ => (.error fault : Except Fault (α × Chars)) :=
  fun _ _ _ read => nomatch read

theorem localBind {f : Chars → Except Fault (α × Chars)} {g : α × Chars → Except Fault (β × Chars)}
    (first : Local f) (second : ∀ x, Local fun cs => g (x, cs)) : Local fun cs => f cs >>= g := by
  intro cs y rest read
  obtain ⟨⟨x, left⟩, one, two⟩ := okBind read
  obtain ⟨shorter, same⟩ := first _ _ _ one
  obtain ⟨shorter', same'⟩ := second _ _ _ _ two
  refine ⟨Nat.le_trans shorter' shorter, fun more => ?_⟩
  simp only [same more]
  exact same' more

theorem localLift {x : Except Fault α} {f : α → Chars → Except Fault (β × Chars)}
    (each : ∀ a, Local (f a)) : Local fun cs => x >>= fun a => f a cs := by
  cases x with
  | error fault => exact localFail fault
  | ok a => exact each a

/- A reader that takes a character at least. -/
theorem localCons {f : Chars → Except Fault (α × Chars)} (none : ∀ x, f [] ≠ .ok x)
    (each : ∀ c, Local fun cs => f (c :: cs)) : Local f := by
  intro cs x rest read
  cases cs with
  | nil => exact absurd read (none _)
  | cons c cs =>
    obtain ⟨shorter, same⟩ := each c cs x rest read
    exact ⟨Nat.le_succ_of_le shorter, same⟩

/- A reader that looks for one character in front of what another one reads. -/
theorem localEither {f g : Chars → Except Fault (α × Chars)} {c : Char} (apart : c ≠ ')')
    (taken : Local fun cs => f (c :: cs)) (left : Local g)
    (otherwise : ∀ cs, cs.head? ≠ some c → f cs = g cs) : Local f := by
  intro cs x rest read
  by_cases head : cs.head? = some c
  · obtain ⟨tail, rfl⟩ := List.head?_eq_some_iff.mp head
    obtain ⟨shorter, same⟩ := taken tail x rest read
    exact ⟨Nat.le_succ_of_le shorter, same⟩
  · rw [otherwise cs head] at read
    obtain ⟨shorter, same⟩ := left cs x rest read
    refine ⟨shorter, fun more => ?_⟩
    rw [otherwise _ ?_]
    · exact same more
    · cases cs with
      | nil => simpa using Ne.symm apart
      | cons d cs => exact head

end

theorem takeWhileClosed {p : Char → Bool} (stops : p ')' = false) (cs more : Chars) :
    (cs ++ ')' :: more).takeWhile p = cs.takeWhile p := by
  induction cs with
  | nil => simp [stops]
  | cons c cs ih =>
    rw [List.cons_append, List.takeWhile_cons, List.takeWhile_cons, ih]

theorem dropWhileClosed {p : Char → Bool} (stops : p ')' = false) (cs more : Chars) :
    (cs ++ ')' :: more).dropWhile p = cs.dropWhile p ++ ')' :: more := by
  induction cs with
  | nil => simp [stops]
  | cons c cs ih =>
    rw [List.cons_append, List.dropWhile_cons, List.dropWhile_cons, ih]
    split <;> rfl

theorem dropWhileShorter (p : Char → Bool) (cs : Chars) : (cs.dropWhile p).length ≤ cs.length :=
  (List.dropWhile_suffix p).length_le

theorem readWhilePlain (p : Char → Bool) (cs : Chars) :
    readWhile false p false cs = (cs.takeWhile p, cs.dropWhile p) := by
  induction cs with
  | nil => rfl
  | cons c cs ih =>
    rw [readWhile, List.takeWhile_cons, List.dropWhile_cons, ih]
    cases p c <;> rfl

theorem bracedLocal {cs text rest : Chars} (read : readBraced false false cs = some (text, rest)) :
    rest.length ≤ cs.length ∧
      ∀ more, readBraced false false (cs ++ ')' :: more) = some (text, rest ++ ')' :: more) := by
  induction cs generalizing text with
  | nil => cases read
  | cons c cs ih =>
    by_cases closing : c = '}'
    · subst closing
      cases read
      exact ⟨Nat.le_succ _, fun more => rfl⟩
    · have passes : ∀ cs, readBraced false false (c :: cs) =
          (readBraced false false cs).map fun taken => (c :: taken.1, taken.2) := by
        intro cs
        simp [readBraced, closing]
      rw [passes] at read
      obtain ⟨⟨text', rest'⟩, inner, same⟩ := Option.map_eq_some_iff.mp read
      cases same
      obtain ⟨shorter, same⟩ := ih inner
      refine ⟨Nat.le_succ_of_le shorter, fun more => ?_⟩
      rw [List.cons_append, passes, same]
      rfl

theorem localBraced {α : Type} (fault : Fault) {f : Chars → Chars → Except Fault (α × Chars)}
    (each : ∀ text, Local (f text)) :
    Local fun cs => match readBraced false false cs with
      | none => .error fault
      | some (text, rest) => f text rest := by
  intro cs x rest read
  simp only at read
  split at read
  · cases read
  next text left found =>
    obtain ⟨shorter, same⟩ := bracedLocal found
    obtain ⟨shorter', same'⟩ := each text left x rest read
    refine ⟨Nat.le_trans shorter' shorter, fun more => ?_⟩
    simp only [same more]
    exact same' more

theorem hexDigitsLocal (width : Nat) : Local (readHexDigits false width) := by
  induction width with
  | zero => exact localPure []
  | succ width ih =>
    refine localCons (fun x => nofun) fun c => ?_
    simp only [readHexDigits, skipPlain]
    split
    · exact localBind ih fun digits => localPure (c :: digits)
    · exact localFail _

theorem codePointLocal (width : Nat) : Local (readCodePoint false width) := by
  have braced : Local fun cs => readCodePoint false width ('{' :: cs) := by
    refine localBraced .unfinishedEscape (f := fun digits rest => do
      if digits.all isHex then
        let c ← codePoint digits
        .ok ((⟨c, false⟩ : Literal), rest)
      else .error .badCodePoint) fun digits => ?_
    split
    · exact localLift fun c => localPure _
    · exact localFail _
  have bare : Local fun cs => readHexDigits false width cs >>= fun taken =>
      codePoint taken.1 >>= fun c => .ok ((⟨c, width == 2⟩ : Literal), taken.2) :=
    localBind (hexDigitsLocal width) fun digits => localLift (x := codePoint digits) fun c =>
      localPure (⟨c, width == 2⟩ : Literal)
  refine localEither (by decide) braced bare fun cs other => ?_
  simp only [readCodePoint, skipPlain]
  split
  · exact absurd rfl other
  · rfl

theorem propertyLocal (negated : Bool) : Local (readProperty false negated) := by
  refine localCons (fun x => nofun) fun c => ?_
  by_cases brace : c = '{'
  · subst brace
    exact localBraced .unfinishedEscape fun text => localPure _
  · simp only [readProperty, skipPlain]
    split
    · exact localFail _
    · exact localPure _

theorem boundaryLocal : Local (readBoundary false) := by
  intro cs e rest read
  have stops : isBoundaryChar ')' = false := by decide
  unfold readBoundary at read
  split at read
  next inside =>
    simp only [skipPlain] at read
    split at read
    · cases read
    next c tail =>
      by_cases named : isBoundaryChar c = true
      · rw [if_pos named, readWhilePlain] at read
        split at read
        next name left same =>
          obtain ⟨first, second⟩ := Prod.mk.inj same
          cases known : boundaryName? name with
          | none =>
            rw [known] at read
            cases read
          | some a =>
            rw [known] at read
            cases read
            have shorter := dropWhileShorter isBoundaryChar (c :: tail)
            rw [second] at shorter
            refine ⟨by simp only [List.length_cons] at shorter ⊢; omega, fun more => ?_⟩
            simp only [List.cons_append, readBoundary, skipPlain, named, if_true, readWhilePlain]
            rw [← List.cons_append, takeWhileClosed stops, dropWhileClosed stops, first, second]
            simp only [List.cons_append, known]
        · cases read
      · rw [if_neg named] at read
        cases read
        exact ⟨Nat.le_refl _, fun more => by simp [readBoundary, skipPlain, named]⟩
  next other =>
    cases read
    refine ⟨Nat.le_refl _, fun more => ?_⟩
    unfold readBoundary
    split
    next tail same =>
      cases cs with
      | nil => cases same
      | cons c cs =>
        cases same
        exact absurd rfl (other cs)
    · rfl

theorem escapeLocal : Local (readEscape false) := by
  refine localCons (fun x => nofun) fun c => ?_
  have literal : ∀ width, Local fun cs =>
      readCodePoint false width cs >>= fun taken => .ok (Expr.literal taken.1, taken.2) :=
    fun width => localBind (codePointLocal width) fun l => localPure (Expr.literal l)
  simp only [readEscape]
  split
  · exact literal 2
  · exact literal 4
  · exact literal 8
  · exact propertyLocal false
  · exact propertyLocal true
  case h_20 => exact boundaryLocal
  all_goals
    try exact localPure _
  split
  · exact localFail _
  · split
    · exact localPure _
    · exact localFail _

theorem negationClosed (cs more : Chars) : readNegation false (cs ++ ')' :: more) =
    ((readNegation false cs).1, (readNegation false cs).2 ++ ')' :: more) := by
  cases cs with
  | nil => rfl
  | cons c cs =>
    by_cases negates : c = '^'
    · subst negates
      rfl
    · simp [readNegation, skipPlain, negates]

theorem negationShorter (cs : Chars) : (readNegation false cs).2.length ≤ cs.length := by
  simp only [readNegation, skipPlain]
  split
  · exact Nat.le_succ _
  · exact Nat.le_refl _

theorem posixLetters {name : Chars} {k : PosixClass} (known : posixClass? name = some k) :
    ')' ∉ name := by
  unfold posixClass? at known
  split at known
  case h_15 => cases known
  all_goals
    next same =>
      rw [← String.toList_ofList (l := name), same]
      decide

theorem posixClosed (cs more : Chars) : readPosix? (cs ++ ')' :: more) =
    (readPosix? cs).map fun (item, rest) => (item, rest ++ ')' :: more) := by
  cases cs with
  | nil => rfl
  | cons c cs =>
    by_cases colon : c = ':'
    · subst colon
      simp only [List.cons_append, readPosix?, negationClosed]
      generalize (readNegation false cs).1 = negated
      generalize (readNegation false cs).2 = cs
      by_cases named : ':' ∈ cs
      · obtain ⟨name, behind, rfl, free⟩ := List.eq_append_cons_of_mem named
        obtain ⟨first, second⟩ := Text.whileFree free behind
        obtain ⟨first', second'⟩ := Text.whileFree free (behind ++ ')' :: more)
        rw [List.append_assoc, List.cons_append, first, second, first', second']
        cases behind with
        | nil => rfl
        | cons d behind =>
          by_cases bracket : d = ']'
          · subst bracket
            cases posixClass? name <;> rfl
          · simp [bracket]
      · -- The name would hold the parenthesis.
        have unknown : posixClass? ((cs ++ ')' :: more).takeWhile (· != ':')) = none := by
          cases known : posixClass? ((cs ++ ')' :: more).takeWhile (· != ':')) with
          | none => rfl
          | some k =>
            refine absurd ?_ (posixLetters known)
            rw [List.takeWhile_append_of_pos (Text.othersFree named)]
            simp
        have ends : cs.dropWhile (· != ':') = [] :=
          List.dropWhile_eq_nil_iff.mpr (Text.othersFree named)
        rw [ends, unknown]
        split <;> rfl
    · simp [readPosix?, colon]

theorem posixShorter {cs rest : Chars} {item : ClassExpr}
    (read : readPosix? cs = some (item, rest)) : rest.length ≤ cs.length := by
  unfold readPosix? at read
  split at read
  next cs =>
    have stripped := negationShorter cs
    have shorter := dropWhileShorter (· != ':') (readNegation false cs).2
    simp only at read
    split at read
    next left same =>
      obtain ⟨k, _, same'⟩ := Option.map_eq_some_iff.mp read
      cases same'
      rw [same] at shorter
      simp only [List.length_cons] at shorter ⊢
      omega
    · cases read
  · cases read

theorem hyphensPlain {fuel : Nat} {cs : Chars} (enough : cs.length ≤ fuel) (l : ClassLevel) :
    readHyphens false fuel l cs =
      ((cs.takeWhile (· == '-')).foldl (fun l c => l.add (.literal ⟨c, false⟩)) l,
        cs.dropWhile (· == '-')) := by
  induction fuel generalizing cs l with
  | zero =>
    cases List.eq_nil_of_length_eq_zero (Nat.le_zero.mp enough)
    rfl
  | succ fuel ih =>
    cases cs with
    | nil => rfl
    | cons c cs =>
      by_cases hyphen : c = '-'
      · subst hyphen
        exact ih (Nat.le_of_succ_le_succ enough) _
      · simp [readHyphens, hyphen]

theorem openClassClosed (cs more : Chars) : openClass false (cs ++ ')' :: more) =
    ((openClass false cs).1, (openClass false cs).2 ++ ')' :: more) := by
  simp only [openClass, negationClosed, hyphensPlain (Nat.le_refl _),
    takeWhileClosed (p := (· == '-')) rfl, dropWhileClosed (p := (· == '-')) rfl]
  generalize List.foldl _ _ _ = l
  generalize List.dropWhile _ _ = left
  cases l.items with
  | some items => rfl
  | none =>
    cases left with
    | nil => rfl
    | cons c left =>
      by_cases bracket : c = ']'
      · subst bracket
        rfl
      · simp [bracket]

theorem openClassShorter (cs : Chars) : (openClass false cs).2.length ≤ cs.length := by
  have stripped := negationShorter cs
  have shorter := dropWhileShorter (· == '-') (readNegation false cs).2
  simp only [openClass, hyphensPlain (Nat.le_refl _)]
  split
  next same =>
    rw [same] at shorter
    simp only [skipPlain, List.length_cons] at shorter ⊢
    omega
  · exact Nat.le_trans shorter stripped

theorem classAtomLocal : Local (readClassAtom false) := by
  refine localCons (fun x => nofun) fun c => ?_
  by_cases escape : c = '\\'
  · subst escape
    exact escapeLocal
  · simp only [readClassAtom]
    exact localPure _

theorem aloneLocal (first : Expr) : Local fun cs => match classItem? first with
    | some item => .ok (item, cs)
    | none => .error .notInClass := by
  cases classItem? first with
  | some item => exact localPure item
  | none => exact localFail _

theorem upToLocal (first : Expr) : Local fun cs =>
    readClassAtom false cs >>= fun (last, rest) => match first, last with
      | .literal lo, .literal hi =>
        if lo.char ≤ hi.char then .ok (ClassExpr.range lo hi, rest) else .error .reversedRange
      | _, _ => .error .notInClass := by
  refine localBind classAtomLocal fun last => ?_
  dsimp only
  split
  · split
    · exact localPure _
    · exact localFail _
  · exact localFail _

theorem classItemLocal : Local (readClassItem false) := by
  intro cs item rest read
  obtain ⟨⟨first, left⟩, atom, read⟩ := okBind read
  obtain ⟨shorter, same⟩ := classAtomLocal _ _ _ atom
  simp only [readClassItem, same, bind, Except.bind]
  simp only [skipPlain] at read ⊢
  cases left with
  | nil => cases read
  | cons c left =>
    by_cases hyphen : c = '-'
    · subst hyphen
      cases left with
      | nil => cases read
      | cons d left =>
        simp only [rangePeek, List.head?_cons, List.cons_append, Bool.false_eq_true, if_false]
          at read ⊢
        split at read
        next single =>
          obtain ⟨shorter', same'⟩ := aloneLocal first _ _ _ read
          refine ⟨Nat.le_trans shorter' shorter, fun more => ?_⟩
          rw [if_pos single]
          exact same' more
        next single =>
          obtain ⟨shorter', same'⟩ := upToLocal first _ _ _ read
          refine ⟨Nat.le_trans (Nat.le_succ_of_le shorter') shorter, fun more => ?_⟩
          rw [if_neg single]
          exact same' more
    · split at read
      next none => cases none
      next same => cases same; exact absurd rfl hyphen
      next left =>
        obtain ⟨shorter', same'⟩ := aloneLocal first _ _ _ read
        refine ⟨Nat.le_trans shorter' shorter, fun more => ?_⟩
        rw [List.cons_append]
        split
        next none => cases none
        next same => cases same; exact absurd rfl hyphen
        · exact same' more

theorem doubledClosed {c sign : Char} {cs more rest : Chars} (other : sign ≠ ')')
    (same : c :: (cs ++ ')' :: more) = sign :: sign :: rest) :
    ∃ tail, c = sign ∧ cs = sign :: tail := by
  obtain ⟨first, second⟩ := List.cons.inj same
  cases cs with
  | nil => exact absurd (List.cons.inj second).1.symm other
  | cons d cs => exact ⟨cs, first, by rw [(List.cons.inj second).1]⟩

/- Steps beyond those that are needed make no difference. -/
theorem classBodyLocal {fuel : Nat} {l : ClassLevel} {outer : List ClassLevel} {cs rest : Chars}
    {body : Bool × ClassExpr} (read : readClassBody false fuel l outer cs = .ok (body, rest)) :
    rest.length ≤ cs.length ∧ ∀ more fuel', fuel ≤ fuel' →
      readClassBody false fuel' l outer (cs ++ ')' :: more) = .ok (body, rest ++ ')' :: more) := by
  induction fuel generalizing l outer cs with
  | zero => cases read
  | succ fuel ih =>
    suffices steps : rest.length ≤ cs.length ∧ ∀ more fuel', fuel ≤ fuel' →
        readClassBody false (fuel' + 1) l outer (cs ++ ')' :: more) =
          .ok (body, rest ++ ')' :: more) by
      refine ⟨steps.1, fun more fuel' enough => ?_⟩
      cases fuel' with
      | zero => cases enough
      | succ fuel' => exact steps.2 more fuel' (Nat.le_of_succ_le_succ enough)
    simp only [readClassBody, skipPlain] at read ⊢
    split at read
    · cases read
    next cs =>
      simp only [List.cons_append, posixClosed, openClassClosed]
      split at read
      next item left posix =>
        obtain ⟨shorter, same⟩ := ih read
        have less := posixShorter posix
        refine ⟨by rw [List.length_cons]; omega, fun more fuel' enough => ?_⟩
        simp only [posix, Option.map_some]
        exact same more fuel' enough
      next posix =>
        obtain ⟨shorter, same⟩ := ih read
        have less := openClassShorter cs
        refine ⟨by rw [List.length_cons]; omega, fun more fuel' enough => ?_⟩
        simp only [posix, Option.map_none]
        exact same more fuel' enough
    next cs =>
      simp only [List.cons_append]
      split at read
      · cases read
        exact ⟨Nat.le_succ _, fun more fuel' enough => rfl⟩
      · obtain ⟨shorter, same⟩ := ih read
        exact ⟨Nat.le_succ_of_le shorter, same⟩
    next cs =>
      obtain ⟨shorter, same⟩ := ih read
      exact ⟨Nat.le_trans shorter (Nat.le_add_right _ 2), same⟩
    next cs =>
      obtain ⟨shorter, same⟩ := ih read
      exact ⟨Nat.le_trans shorter (Nat.le_add_right _ 2), same⟩
    next cs =>
      obtain ⟨shorter, same⟩ := ih read
      exact ⟨Nat.le_trans shorter (Nat.le_add_right _ 2), same⟩
    next c cs bracket closing inter diff symm =>
      obtain ⟨⟨item, left⟩, inner, read⟩ := okBind read
      obtain ⟨shorter, same⟩ := classItemLocal _ _ _ inner
      obtain ⟨shorter', same'⟩ := ih read
      refine ⟨Nat.le_trans shorter' shorter, fun more fuel' enough => ?_⟩
      rw [List.cons_append]
      split
      next none => cases none
      next same => cases same; exact (bracket rfl).elim
      next same => cases same; exact (closing rfl).elim
      next both =>
        obtain ⟨tail, first, second⟩ := doubledClosed (by decide) both
        exact (inter tail first second).elim
      next both =>
        obtain ⟨tail, first, second⟩ := doubledClosed (by decide) both
        exact (diff tail first second).elim
      next both =>
        obtain ⟨tail, first, second⟩ := doubledClosed (by decide) both
        exact (symm tail first second).elim
      next both =>
        cases both
        rw [← List.cons_append, same more]
        exact same' more fuel' enough

theorem classLocal : Local (readClass false) := by
  intro cs e rest read
  obtain ⟨⟨⟨negated, body⟩, left⟩, inner, same⟩ := okBind (show readClassBody false (cs.length + 1)
    (openClass false cs).1 [] (openClass false cs).2 >>= _ = _ from read)
  cases same
  obtain ⟨shorter, same⟩ := classBodyLocal inner
  refine ⟨Nat.le_trans shorter (openClassShorter cs), fun more => ?_⟩
  have enough : cs.length + 1 ≤ (cs ++ ')' :: more).length + 1 := by simp
  simp only [readClass, openClassClosed, same more _ enough, bind, Except.bind]

theorem decimalLocal : Local (readDecimal false) := by
  intro cs count rest read
  have digits : isDecimal ')' = false := by decide
  have blanks : isBlank ')' = false := by decide +kernel
  simp only [readDecimal, skipPlain, readWhilePlain, dropWhileClosed blanks, dropWhileClosed digits,
    takeWhileClosed digits] at read ⊢
  split at read
  · cases read
  next small =>
    cases read
    refine ⟨?_, fun more => by rw [if_neg small]⟩
    have one := dropWhileShorter isBlank cs
    have two := dropWhileShorter isDecimal (cs.dropWhile isBlank)
    have three := dropWhileShorter isBlank ((cs.dropWhile isBlank).dropWhile isDecimal)
    omega

/- The second of two bounds, behind the comma. -/
theorem upperLocal {min : Nat} {cs rest : Chars} {bounds : Nat × Option Nat}
    (read : (readDecimal false cs >>= fun
      | (some max, '}' :: rest) =>
        if min ≤ max then .ok ((min, some max), rest) else .error .reversedCount
      | _ => .error .badCount) = .ok (bounds, rest)) :
    rest.length ≤ cs.length ∧ ∀ more, (readDecimal false (cs ++ ')' :: more) >>= fun
      | (some max, '}' :: rest) =>
        if min ≤ max then .ok ((min, some max), rest) else .error .reversedCount
      | _ => .error .badCount) = .ok (bounds, rest ++ ')' :: more) := by
  obtain ⟨⟨most, left⟩, second, read⟩ := okBind read
  obtain ⟨shorter, same⟩ := decimalLocal _ _ _ second
  simp only [same, bind, Except.bind]
  split at read
  next max left both =>
    cases both
    split at read
    next ordered =>
      cases read
      exact ⟨Nat.le_trans (Nat.le_succ _) shorter, fun more => if_pos ordered⟩
    · cases read
  · cases read

theorem boundsLocal : Local (readBounds false) := by
  intro cs bounds rest read
  obtain ⟨⟨least, left⟩, first, read⟩ := okBind read
  obtain ⟨shorter, same⟩ := decimalLocal _ _ _ first
  simp only [readBounds, same, bind, Except.bind]
  split at read
  next both =>
    cases both
    cases read
    exact ⟨Nat.le_trans (Nat.le_succ _) shorter, fun more => rfl⟩
  next min left both =>
    cases both
    rw [List.length_cons] at shorter
    simp only [skipPlain] at read ⊢
    split at read
    next left =>
      cases read
      exact ⟨Nat.le_trans (Nat.le_add_right _ 2) shorter, fun more => rfl⟩
    next other =>
      obtain ⟨shorter', same'⟩ := upperLocal read
      refine ⟨Nat.le_trans (Nat.le_succ_of_le shorter') shorter, fun more => ?_⟩
      rw [List.cons_append]
      simp only
      split
      next _ tail same =>
        cases left with
        | nil => cases same
        | cons c left =>
          cases same
          exact absurd rfl (other left)
      · exact same' more
  · cases read

theorem greedClosed (cs more : Chars) : Reader.readGreed (cs ++ ')' :: more) =
    ((Reader.readGreed cs).1, (Reader.readGreed cs).2 ++ ')' :: more) := by
  cases cs with
  | nil => rfl
  | cons c cs =>
    by_cases sign : c = '?'
    · subst sign
      rfl
    · simp [Reader.readGreed, sign]

end Signpost.Regex
