import Mathlib.Data.List.TakeWhile
import Signpost.Route.PathPattern

/-! How the tail of a source is read, whatever stands before it. No construct that begins
before the tail ends inside it, but for an escape that takes its first parenthesis. In
verbose mode a comment may take all of it. -/
namespace Signpost.Regex
open Route (tailSource)
open Unicode (isBlank)

def tailInside : List Char := "[?].*)?([#].*)?$".toList

theorem tailOpens : tailSource = '(' :: tailInside := rfl

theorem tailNotBlank : ∀ c ∈ tailSource, isBlank c = false := by
  have all : tailSource.all (fun c => !isBlank c) = true := by decide +kernel
  simpa using List.all_eq_true.mp all

/- The whole tail is ahead, behind a front of at most `n` characters. -/
def Ahead (n : Nat) (cs : Chars) : Prop := ∃ front, front.length ≤ n ∧ cs = front ++ tailSource

theorem aheadMore {m n cs} (ahead : Ahead m cs) (le : m ≤ n) : Ahead n cs := by
  obtain ⟨front, bound, rfl⟩ := ahead
  exact ⟨front, Nat.le_trans bound le, rfl⟩

theorem aheadCons {n c cs} (ahead : Ahead n (c :: cs)) :
    (c = '(' ∧ cs = tailInside) ∨ ∃ m, m + 1 = n ∧ Ahead m cs := by
  obtain ⟨front, bound, same⟩ := ahead
  cases front with
  | nil =>
    rw [List.nil_append, tailOpens] at same
    cases same
    exact .inl ⟨rfl, rfl⟩
  | cons d front =>
    rw [List.cons_append] at same
    cases same
    rw [List.length_cons] at bound
    exact .inr ⟨n - 1, by omega, front, by omega, rfl⟩

theorem aheadTail {n c cs} (ahead : Ahead n (c :: cs)) (other : c ≠ '(') : Ahead n cs := by
  rcases aheadCons ahead with ⟨same, _⟩ | ⟨m, step, ahead⟩
  · exact absurd same other
  · exact aheadMore ahead (by omega)

theorem aheadNil {n} : ¬ Ahead n [] := by
  intro given
  obtain ⟨front, _, same⟩ := given
  rw [tailOpens] at same
  simp at same

/- Reading on until a character is met that the tail does not hold. -/
theorem aheadDropWhile {n cs} {p : Char → Bool} (stops : p '(' = false) (ahead : Ahead n cs) :
    Ahead n (cs.dropWhile p) := by
  induction cs generalizing n with
  | nil => exact absurd ahead aheadNil
  | cons c cs ih =>
    rw [List.dropWhile_cons]
    split
    next passes =>
      have other : c ≠ '(' := by
        intro same
        subst same
        rw [stops] at passes
        cases passes
      exact ih (aheadTail ahead other)
    · exact ahead

theorem aheadDropUntil {n cs c rest} {p : Char → Bool} (none : tailSource.all p = true)
    (ahead : Ahead n cs) (found : cs.dropWhile p = c :: rest) : Ahead n rest := by
  induction cs generalizing n with
  | nil => exact absurd ahead aheadNil
  | cons d cs ih =>
    rw [List.dropWhile_cons] at found
    split at found
    next passes =>
      rcases aheadCons ahead with ⟨_, rfl⟩ | ⟨m, step, ahead⟩
      · have all : tailInside.dropWhile p = [] := by
          rw [List.dropWhile_eq_nil_iff]
          intro d member
          exact List.all_eq_true.mp none d (by rw [tailOpens]; exact List.mem_cons_of_mem _ member)
        rw [all] at found
        cases found
      · exact aheadMore (ih ahead found) (by omega)
    next fails =>
      cases found
      refine aheadTail ahead ?_
      intro same
      subst same
      exact fails (List.all_eq_true.mp none '(' (by decide))

theorem aheadDropBlanks {n cs} (inComment : Bool) (ahead : Ahead n cs) :
    Ahead n (dropBlanks inComment cs) ∨ dropBlanks inComment cs = [] := by
  induction cs generalizing n inComment with
  | nil => exact absurd ahead aheadNil
  | cons c cs ih =>
    have further : ∀ mode, c ≠ '(' →
        Ahead n (dropBlanks mode cs) ∨ dropBlanks mode cs = [] := by
      intro mode other
      exact ih mode (aheadTail ahead other)
    by_cases opening : c = '('
    · subst opening
      cases inComment with
      | false =>
        have plain : isBlank '(' = false := tailNotBlank '(' (by decide)
        left
        simpa [dropBlanks, plain] using ahead
      | true =>
        rcases aheadCons ahead with ⟨_, rfl⟩ | ⟨m, step, ahead⟩
        · exact .inr (by decide)
        · rcases ih true ahead with ahead | nothing
          · exact .inl (by simpa [dropBlanks] using aheadMore ahead (by omega))
          · exact .inr (by simpa [dropBlanks] using nothing)
    · simp only [dropBlanks]
      split
      · exact further _ opening
      · split
        · exact further _ opening
        · split
          · exact further _ opening
          · exact .inl ahead

theorem aheadSkip {n cs} (verbose : Bool) (ahead : Ahead n cs) :
    Ahead n (skip verbose cs) ∨ (skip verbose cs = [] ∧ verbose = true) := by
  cases verbose with
  | false => exact .inl ahead
  | true =>
    rcases aheadDropBlanks false ahead with ahead | nothing
    · exact .inl ahead
    · exact .inr ⟨nothing, rfl⟩

theorem skipKeeps (verbose : Bool) {c : Char} {cs : Chars} (plain : isBlank c = false)
    (other : c ≠ '#') : skip verbose (c :: cs) = c :: cs := by
  cases verbose with
  | false => rfl
  | true => simp [skip, dropBlanks, plain, other]

theorem readWhileComment {verbose p cs} (one : '\n' ∉ cs) :
    readWhile verbose p true cs = ([], []) := by
  induction cs with
  | nil => rfl
  | cons c cs ih =>
    rw [List.mem_cons, not_or] at one
    have other : (c != '\n') = true := by simpa using Ne.symm one.1
    simp only [readWhile, if_true, other, ih one.2]

theorem aheadReadWhile {n cs} (verbose : Bool) {p : Char → Bool} (stops : p '(' = false)
    (inComment : Bool) (ahead : Ahead n cs) :
    Ahead n (readWhile verbose p inComment cs).2 ∨ (readWhile verbose p inComment cs).2 = [] := by
  induction cs generalizing n inComment with
  | nil => exact absurd ahead aheadNil
  | cons c cs ih =>
    by_cases opening : c = '('
    · subst opening
      cases inComment with
      | false =>
        have plain : isBlank '(' = false := tailNotBlank '(' (by decide)
        left
        simpa [readWhile, plain, stops] using ahead
      | true =>
        rcases aheadCons ahead with ⟨_, rfl⟩ | ⟨m, step, ahead⟩
        · exact .inr (by rw [readWhileComment (by decide)])
        · rcases ih true ahead with ahead | nothing
          · exact .inl (by simpa [readWhile] using aheadMore ahead (by omega))
          · exact .inr (by simpa [readWhile] using nothing)
    · have further := fun mode => ih mode (aheadTail ahead opening)
      simp only [readWhile]
      split
      · exact further _
      · split
        · exact further _
        · split
          · exact further _
          · split
            · exact further _
            · exact .inl ahead

theorem readBracedNeeds {verbose inComment cs} (none : '}' ∉ cs) :
    readBraced verbose inComment cs = .none := by
  induction cs generalizing inComment with
  | nil => rfl
  | cons c cs ih =>
    rw [List.mem_cons, not_or] at none
    have other : (c == '}') = false := by simpa using Ne.symm none.1
    simp only [readBraced, other, ih none.2, Option.map_none, ite_self, Bool.false_eq_true, if_false]

theorem aheadReadBraced {n verbose inComment cs text rest} (ahead : Ahead n cs)
    (read : readBraced verbose inComment cs = some (text, rest)) : Ahead n rest := by
  induction cs generalizing n inComment text with
  | nil => exact absurd ahead aheadNil
  | cons c cs ih =>
    rcases aheadCons ahead with ⟨rfl, rfl⟩ | ⟨m, step, ahead⟩
    · rw [readBracedNeeds (by decide)] at read
      cases read
    · have later : ∀ mode text, readBraced verbose mode cs = some (text, rest) → Ahead n rest :=
        fun mode text read => aheadMore (ih ahead read) (by omega)
      simp only [readBraced] at read
      split at read
      · exact later _ _ read
      · split at read
        · cases read
          exact aheadMore ahead (by omega)
        · split at read
          · exact later _ _ read
          · split at read
            · exact later _ _ read
            · obtain ⟨⟨text', rest'⟩, inner, same⟩ := Option.map_eq_some_iff.mp read
              cases same
              exact later _ _ inner

theorem aheadHexDigits {n verbose width cs digits rest} (ahead : Ahead n cs)
    (read : readHexDigits verbose width cs = .ok (digits, rest)) : Ahead n rest := by
  induction width generalizing n cs digits with
  | zero =>
    cases read
    exact ahead
  | succ width ih =>
    simp only [readHexDigits] at read
    rcases aheadSkip verbose ahead with ahead | ⟨nothing, _⟩
    · split at read
      · cases read
      next c more same =>
        rw [same] at ahead
        split at read
        next hex =>
          have other : c ≠ '(' := by
            intro same
            subst same
            exact absurd hex (by decide)
          obtain ⟨⟨read', rest'⟩, inner, last⟩ := okBind read
          cases last
          exact ih (aheadTail ahead other) inner
        · cases read
    · rw [nothing] at read
      cases read

theorem aheadCodePoint {n verbose width cs l rest} (ahead : Ahead n cs)
    (read : readCodePoint verbose width cs = .ok (l, rest)) : Ahead n rest := by
  simp only [readCodePoint] at read
  rcases aheadSkip verbose ahead with ahead | ⟨nothing, _⟩
  · split at read
    next more same =>
      rw [same] at ahead
      split at read
      · cases read
      next digits more' inner =>
        have after := aheadReadBraced (aheadTail ahead (by decide)) inner
        split at read
        · obtain ⟨c, point, last⟩ := okBind read
          cases last
          exact after
        · cases read
    · obtain ⟨⟨digits, more⟩, inner, read⟩ := okBind read
      obtain ⟨c, point, last⟩ := okBind read
      cases last
      exact aheadHexDigits ahead inner
  · rw [nothing] at read
    cases width with
    | zero => cases read
    | succ width =>
      have none : skip verbose [] = [] := by cases verbose <;> rfl
      simp only [readHexDigits, none, bind, Except.bind] at read
      cases read

/- What is left behind an escape: the tail, or the tail without its first parenthesis. -/
def Behind (n : Nat) (rest : Chars) : Prop := Ahead n rest ∨ rest = tailInside

theorem behindCons {n c cs} (ahead : Ahead n (c :: cs)) : Behind n cs := by
  rcases aheadCons ahead with ⟨_, same⟩ | ⟨m, step, ahead⟩
  · exact .inr same
  · exact .inl (aheadMore ahead (by omega))

theorem behindProperty {n verbose negated cs e rest} (ahead : Ahead n cs)
    (read : readProperty verbose negated cs = .ok (e, rest)) : Behind n rest := by
  simp only [readProperty] at read
  rcases aheadSkip verbose ahead with ahead | ⟨nothing, _⟩
  · split at read
    · cases read
    next more same =>
      rw [same] at ahead
      split at read
      · cases read
      next text more' inner =>
        cases read
        exact .inl (aheadReadBraced (aheadTail ahead (by decide)) inner)
    next c more _ same =>
      rw [same] at ahead
      split at read
      · cases read
      · cases read
        exact behindCons ahead
  · rw [nothing] at read
    cases read

theorem aheadBoundary {n verbose cs e rest} (ahead : Ahead n cs)
    (read : readBoundary verbose cs = .ok (e, rest)) : Ahead n rest := by
  simp only [readBoundary] at read
  split at read
  next more =>
    have inside := aheadTail ahead (by decide)
    split at read
    · cases read
    next c more' same =>
      split at read
      · have after : Ahead n (skip verbose more) := by
          rcases aheadSkip verbose inside with ahead | ⟨nothing, _⟩
          · exact ahead
          · rw [nothing] at same
            cases same
        rw [same] at after
        split at read
        next name last found =>
          have brace := aheadReadWhile verbose (p := isBoundaryChar) (by decide) false after
          rw [found] at brace
          rcases brace with brace | none
          · split at read
            · cases read
              exact aheadTail brace (by decide)
            · cases read
          · cases none
        · cases read
      · cases read
        exact ahead
  · cases read
    exact ahead

theorem behindEscape {n verbose cs e rest} (ahead : Ahead n cs)
    (read : readEscape verbose cs = .ok (e, rest)) : Behind n rest := by
  cases cs with
  | nil => exact absurd ahead aheadNil
  | cons c cs =>
    simp only [readEscape] at read
    split at read
    case h_1 | h_2 | h_3 =>
      obtain ⟨⟨l, more⟩, inner, last⟩ := okBind read
      cases last
      exact .inl (aheadCodePoint (aheadTail ahead (by decide)) inner)
    case h_4 | h_5 => exact behindProperty (aheadTail ahead (by decide)) read
    case h_20 => exact .inl (aheadBoundary (aheadTail ahead (by decide)) read)
    case h_24 =>
      split at read
      · cases read
      · split at read
        · cases read
          exact behindCons ahead
        · cases read
    all_goals
      cases read
      exact behindCons ahead

theorem aheadFlags {n edit clearing dangling cs opening rest} (ahead : Ahead n cs)
    (read : readFlags edit clearing dangling cs = .ok (opening, rest)) : Ahead n rest := by
  induction cs generalizing n edit clearing dangling with
  | nil => exact absurd ahead aheadNil
  | cons c cs ih =>
    have other : c ≠ '(' := by
      intro same
      subst same
      simp [readFlags, flagOf?] at read
    have ahead := aheadTail ahead other
    simp only [readFlags] at read
    split at read
    · split at read
      · cases read
      · cases read
        exact ahead
    · split at read
      · split at read
        · cases read
        · split at read
          · cases read
          · cases read
            exact ahead
      · split at read
        · split at read
          · cases read
          · exact ih ahead read
        · split at read
          · cases read
          · split at read
            · cases read
            · exact ih ahead read

theorem aheadName {n cs opening rest} (ahead : Ahead n cs)
    (read : readName cs = .ok (opening, rest)) : Ahead n rest := by
  simp only [readName] at read
  split at read
  next found =>
    split at read
    · cases read
      exact aheadDropUntil (by decide) ahead found
    · cases read
  · cases read

/- A group that opens behind the last character of a source is never closed. -/
theorem aheadOpening {n verbose cs opening rest} (ahead : Ahead n cs)
    (read : readOpening verbose cs = .ok (opening, rest)) :
    Ahead n rest ∨ (rest = [] ∧ opening = .capture none) := by
  simp only [readOpening] at read
  rcases aheadSkip verbose ahead with ahead | ⟨nothing, _⟩
  · split at read
    · cases read
    · cases read
    · cases read
    · cases read
    next same =>
      rw [same] at ahead
      exact .inl (aheadName (aheadTail (aheadTail (aheadTail ahead (by decide)) (by decide))
        (by decide)) read)
    next same =>
      rw [same] at ahead
      exact .inl (aheadName (aheadTail (aheadTail ahead (by decide)) (by decide)) read)
    next same =>
      rw [same] at ahead
      exact .inl (aheadFlags (aheadTail ahead (by decide)) read)
    · cases read
      exact .inl ahead
  · rw [nothing] at read
    cases read
    exact .inr ⟨rfl, rfl⟩

theorem aheadDecimal {n verbose cs count c rest} (ahead : Ahead n cs)
    (read : readDecimal verbose cs = .ok (count, c :: rest)) : Ahead n (c :: rest) := by
  simp only [readDecimal] at read
  split at read
  · cases read
  · simp only [Except.ok.injEq, Prod.mk.injEq] at read
    obtain ⟨_, same⟩ := read
    have blank : isBlank '(' = false := tailNotBlank '(' (by decide)
    rcases aheadSkip verbose ahead with ahead | ⟨nothing, _⟩
    · rcases aheadReadWhile verbose (p := isDecimal) (by decide) false
        (aheadDropWhile (p := isBlank) blank ahead) with digits | none
      · rw [← same]
        exact aheadDropWhile blank digits
      · rw [none] at same
        cases same
    · rw [nothing] at same
      simp [readWhile] at same

theorem aheadBounds {n verbose cs bounds rest} (ahead : Ahead n cs)
    (read : readBounds verbose cs = .ok (bounds, rest)) : Ahead n rest := by
  obtain ⟨pair, first, read⟩ := okBind read
  split at read
  next more =>
    cases read
    exact aheadTail (aheadDecimal ahead first) (by decide)
  next min more =>
    have comma := aheadTail (aheadDecimal ahead first) (by decide)
    rcases aheadSkip verbose comma with further | ⟨nothing, _⟩
    · split at read
      next found =>
        cases read
        rw [found] at further
        exact aheadTail further (by decide)
      · obtain ⟨pair, second, read⟩ := okBind read
        split at read
        next max last =>
          split at read
          · cases read
            exact aheadTail (aheadDecimal further second) (by decide)
          · cases read
        · cases read
    · rw [nothing] at read
      have none : skip verbose [] = [] := by cases verbose <;> rfl
      simp [readDecimal, none, readWhile, number, bind, Except.bind] at read
  · cases read

theorem aheadGreed {n cs} (ahead : Ahead n cs) : Ahead n (Reader.readGreed cs).2 := by
  unfold Reader.readGreed
  split
  · exact aheadTail ahead (by decide)
  · exact ahead

/- In verbose mode a comment may have taken all that was left. -/
def Left (n : Nat) (cs : Chars) : Prop := Ahead n cs ∨ cs = []

theorem leftSkip {n cs} (verbose : Bool) (left : Left n cs) : Left n (skip verbose cs) := by
  rcases left with ahead | rfl
  · rcases aheadSkip verbose ahead with ahead | ⟨nothing, _⟩
    · exact .inl ahead
    · exact .inr nothing
  · cases verbose <;> exact .inr rfl

theorem leftTail {n c cs} (left : Left n (c :: cs)) (other : c ≠ '(') : Left n cs := by
  rcases left with ahead | none
  · exact .inl (aheadTail ahead other)
  · cases none

theorem leftHyphens {n cs} (verbose : Bool) (fuel : Nat) (l : ClassLevel) (left : Left n cs) :
    Left n (readHyphens verbose fuel l cs).2 := by
  induction fuel generalizing l cs with
  | zero => exact left
  | succ fuel ih =>
    unfold readHyphens
    split
    next more => exact ih _ (leftSkip verbose (leftTail left (by decide)))
    · exact left

theorem leftNegation {n cs} (verbose : Bool) (left : Left n cs) : Left n (readNegation verbose cs).2 := by
  have skipped := leftSkip verbose left
  unfold readNegation
  split
  next more found =>
    rw [found] at skipped
    exact leftSkip verbose (leftTail skipped (by decide))
  · exact skipped

theorem leftOpenClass {n verbose cs} (left : Left n cs) : Left n (openClass verbose cs).2 := by
  have stripped := leftNegation verbose left
  unfold openClass
  rcases negation : readNegation verbose cs with ⟨negated, more⟩
  rw [negation] at stripped
  have hyphens := leftHyphens verbose more.length { negated } stripped
  simp only
  rcases items : readHyphens verbose more.length { negated } more with ⟨l, more'⟩
  rw [items] at hyphens
  simp only
  split
  · exact leftSkip verbose (leftTail hyphens (by decide))
  · exact hyphens

theorem aheadPosix {n cs item rest} (ahead : Ahead n cs)
    (read : readPosix? cs = some (item, rest)) : Ahead n rest := by
  unfold readPosix? at read
  split at read
  next more =>
    have stripped := leftNegation false (.inl (aheadTail ahead (by decide)))
    simp only at read
    split at read
    next last found =>
      obtain ⟨k, _, same⟩ := Option.map_eq_some_iff.mp read
      cases same
      rcases stripped with stripped | none
      · exact aheadTail (aheadDropUntil (by decide) stripped found) (by decide)
      · rw [none] at found
        cases found
    · cases read
  · cases read

theorem behindAtom {n verbose cs e rest} (ahead : Ahead n cs)
    (read : readClassAtom verbose cs = .ok (e, rest)) : Behind n rest := by
  unfold readClassAtom at read
  split at read
  · cases read
  · exact behindEscape (aheadTail ahead (by decide)) read
  · cases read
    exact behindCons ahead

theorem skipInside (verbose : Bool) : skip verbose tailInside = tailInside :=
  skipKeeps verbose (tailNotBlank '[' (by decide)) (by decide)

theorem behindItem {n verbose cs item rest} (ahead : Ahead n cs)
    (read : readClassItem verbose cs = .ok (item, rest)) : Behind n rest := by
  obtain ⟨⟨first, more⟩, atom, read⟩ := okBind read
  simp only at read
  rcases behindAtom ahead atom with further | rfl
  · rcases aheadSkip verbose further with further | ⟨nothing, _⟩
    · split at read
      · cases read
      next more' found =>
        rw [found] at further
        split at read
        · split at read
          · cases read
            exact .inl further
          · cases read
        · obtain ⟨⟨last, rest'⟩, atom, read⟩ := okBind read
          simp only at read
          rcases aheadSkip verbose (aheadTail further (by decide)) with inner | ⟨nothing, _⟩
          · split at read
            · split at read
              · cases read
                exact behindAtom inner atom
              · cases read
            · cases read
          · rw [nothing] at atom
            cases atom
      · split at read
        · cases read
          exact .inl further
        · cases read
    · rw [nothing] at read
      cases read
  · rw [skipInside] at read
    cases alone : classItem? first with
    | none =>
      rw [alone] at read
      cases read
    | some item =>
      rw [alone] at read
      cases read
      exact .inr rfl

theorem classItemStep {verbose : Bool} {fuel l outer c d cs x}
    (plain : c ∉ ['[', ']', '&', '-', '~', '\\']) (next : d ≠ '-')
    (here : skip verbose (c :: d :: cs) = c :: d :: cs) (there : skip verbose (d :: cs) = d :: cs)
    (read : readClassBody verbose fuel l outer (c :: d :: cs) = .ok x) :
    ∃ fuel l, readClassBody verbose fuel l outer (d :: cs) = .ok x := by
  cases fuel with
  | zero => cases read
  | succ fuel =>
    simp only [List.mem_cons, List.not_mem_nil, or_false, not_or] at plain
    have item : readClassItem verbose (c :: d :: cs) =
        .ok (.literal ⟨c, false⟩, d :: cs) := by
      have atom : readClassAtom verbose (c :: d :: cs) = .ok (.literal ⟨c, false⟩, d :: cs) := by
        unfold readClassAtom
        split
        next none => cases none
        next same => cases same; exact absurd rfl plain.2.2.2.2.2
        next same => cases same; rfl
      simp only [readClassItem, atom, bind, Except.bind, there, classItem?]
      split
      next none => cases none
      next same => cases same; exact absurd rfl next
      · rfl
    simp only [readClassBody, here, bind, Except.bind] at read
    split at read
    next none => cases none
    next same => cases same; exact absurd rfl plain.1
    next same => cases same; exact absurd rfl plain.2.1
    next same => cases same; exact absurd rfl plain.2.2.1
    next same => cases same; exact absurd rfl plain.2.2.2.1
    next same => cases same; exact absurd rfl plain.2.2.2.2.1
    next same =>
      cases same
      rw [item] at read
      exact ⟨fuel, _, read⟩

theorem classOpenStep {verbose : Bool} {fuel l outer d cs x} (next : d ∉ [':', '^', '-', ']'])
    (there : skip verbose (d :: cs) = d :: cs)
    (read : readClassBody verbose fuel l outer ('[' :: d :: cs) = .ok x) :
    ∃ fuel, readClassBody verbose fuel { negated := false } (l :: outer) (d :: cs) = .ok x := by
  cases fuel with
  | zero => cases read
  | succ fuel =>
    simp only [List.mem_cons, List.not_mem_nil, or_false, not_or] at next
    have here : skip verbose ('[' :: d :: cs) = '[' :: d :: cs :=
      skipKeeps verbose (tailNotBlank '[' (by decide)) (by decide)
    have posix : readPosix? (d :: cs) = none := by
      unfold readPosix?
      split
      next same => cases same; exact absurd rfl next.1
      · rfl
    have start : openClass verbose (d :: cs) = ({ negated := false }, d :: cs) := by
      have negation : readNegation verbose (d :: cs) = (false, d :: cs) := by
        unfold readNegation
        rw [there]
        split
        next same => cases same; exact absurd rfl next.2.1
        · rfl
      have hyphens : readHyphens verbose (d :: cs).length { negated := false } (d :: cs) =
          ({ negated := false }, d :: cs) := by
        rw [List.length_cons]
        unfold readHyphens
        split
        next same => cases same; exact absurd rfl next.2.2.1
        · rfl
      simp only [openClass, negation, hyphens]
      split
      next same => cases same; exact absurd rfl next.2.2.2
      · rfl
    simp only [readClassBody, here, posix, start] at read
    exact ⟨fuel, read⟩

theorem classCloseStep {verbose : Bool} {fuel l l' outer cs x}
    (read : readClassBody verbose fuel l (l' :: outer) (']' :: cs) = .ok x) :
    ∃ fuel l, readClassBody verbose fuel l outer cs = .ok x := by
  cases fuel with
  | zero => cases read
  | succ fuel =>
    have here : skip verbose (']' :: cs) = ']' :: cs :=
      skipKeeps verbose (tailNotBlank ']' (by decide)) (by decide)
    simp only [readClassBody, here] at read
    exact ⟨fuel, _, read⟩

theorem skipTail (verbose : Bool) {c : Char} {cs : Chars}
    (member : c ∈ ['(', ')', '[', ']', '?', '.', '*', '$']) : skip verbose (c :: cs) = c :: cs := by
  have both : ['(', ')', '[', ']', '?', '.', '*', '$'].all
      (fun d => tailSource.contains d && d != '#') = true := by decide
  have here := List.all_eq_true.mp both c member
  simp only [Bool.and_eq_true, List.contains_iff_mem, bne_iff_ne] at here
  exact skipKeeps verbose (tailNotBlank c here.1) here.2

theorem skipComment {cs : Chars} (one : '\n' ∉ cs) : skip true ('#' :: cs) = [] := by
  have comment : ∀ cs : Chars, '\n' ∉ cs → dropBlanks true cs = [] := by
    intro cs one
    induction cs with
    | nil => rfl
    | cons c cs ih =>
      rw [List.mem_cons, not_or] at one
      have other : (c != '\n') = true := by simpa using Ne.symm one.1
      simp only [dropBlanks, if_true, other, ih one.2]
  have plain : isBlank '#' = false := tailNotBlank '#' (by decide)
  simp [skip, dropBlanks, plain, comment cs one]

theorem classOpenEmpty {verbose : Bool} {fuel l outer c cs x} (other : c ≠ ':')
    (gone : skip verbose (c :: cs) = []) :
    readClassBody verbose fuel l outer ('[' :: c :: cs) ≠ .ok x := by
  intro read
  cases fuel with
  | zero => cases read
  | succ fuel =>
    have here : skip verbose ('[' :: c :: cs) = '[' :: c :: cs := skipTail verbose (by decide)
    have posix : readPosix? (c :: cs) = none := by
      unfold readPosix?
      split
      next same => cases same; exact absurd rfl other
      · rfl
    have start : openClass verbose (c :: cs) = ({ negated := false }, []) := by
      have negation : readNegation verbose (c :: cs) = (false, []) := by
        unfold readNegation
        rw [gone]
      rw [openClass, negation]
      rfl
    have none : skip verbose [] = [] := by cases verbose <;> rfl
    simp only [readClassBody, here, posix, start] at read
    cases fuel with
    | zero => cases read
    | succ fuel =>
      simp only [readClassBody, none] at read
      cases read

/- A class that is open where the second half of the tail begins stays open to its end. -/
theorem classHalfOpen {verbose : Bool} {fuel l outer x} :
    readClassBody verbose fuel l outer "[#].*)?$".toList ≠ .ok x := by
  intro read
  cases verbose with
  | true => exact classOpenEmpty (by decide) (skipComment (by decide)) read
  | false =>
    obtain ⟨_, read⟩ := classOpenStep (by decide) rfl read
    obtain ⟨_, _, read⟩ := classItemStep (by decide) (by decide) rfl rfl read
    obtain ⟨_, _, read⟩ := classCloseStep read
    obtain ⟨_, _, read⟩ := classItemStep (by decide) (by decide) rfl rfl read
    obtain ⟨_, _, read⟩ := classItemStep (by decide) (by decide) rfl rfl read
    obtain ⟨_, _, read⟩ := classItemStep (by decide) (by decide) rfl rfl read
    obtain ⟨fuel, _, read⟩ := classItemStep (by decide) (by decide) rfl rfl read
    cases fuel <;> cases read

theorem classInsideOpen {verbose : Bool} {fuel l outer x} :
    readClassBody verbose fuel l outer tailInside ≠ .ok x := by
  intro read
  have plain : ∀ {c : Char} {cs : Chars}, c ∈ ['(', ')', '[', ']', '?', '.', '*', '$'] →
      skip verbose (c :: cs) = c :: cs := skipTail verbose
  obtain ⟨_, read⟩ := classOpenStep (by decide) (plain (by decide)) read
  obtain ⟨_, _, read⟩ :=
    classItemStep (by decide) (by decide) (plain (by decide)) (plain (by decide)) read
  obtain ⟨_, _, read⟩ := classCloseStep read
  obtain ⟨_, _, read⟩ :=
    classItemStep (by decide) (by decide) (plain (by decide)) (plain (by decide)) read
  obtain ⟨_, _, read⟩ :=
    classItemStep (by decide) (by decide) (plain (by decide)) (plain (by decide)) read
  obtain ⟨_, _, read⟩ :=
    classItemStep (by decide) (by decide) (plain (by decide)) (plain (by decide)) read
  obtain ⟨_, _, read⟩ :=
    classItemStep (by decide) (by decide) (plain (by decide)) (plain (by decide)) read
  obtain ⟨_, _, read⟩ :=
    classItemStep (by decide) (by decide) (plain (by decide)) (plain (by decide)) read
  exact classHalfOpen read

theorem aheadFilled {n c cs} (left : Left n (c :: cs)) : Ahead n (c :: cs) := by
  rcases left with ahead | none
  · exact ahead
  · cases none

theorem aheadClassBody {n verbose fuel l outer cs body rest} (left : Left n cs)
    (read : readClassBody verbose fuel l outer cs = .ok (body, rest)) : Ahead n rest := by
  induction fuel generalizing l outer cs with
  | zero => cases read
  | succ fuel ih =>
    have skipped := leftSkip verbose left
    simp only [readClassBody] at read
    split at read
    · cases read
    next found =>
      rw [found] at skipped
      have inside := aheadTail (aheadFilled skipped) (by decide)
      split at read
      next posix => exact ih (.inl (aheadPosix inside posix)) read
      · exact ih (leftOpenClass (.inl inside)) read
    next found =>
      rw [found] at skipped
      have behind := aheadTail (aheadFilled skipped) (by decide)
      split at read
      · cases read
        exact behind
      · exact ih (.inl behind) read
    next found =>
      rw [found] at skipped
      exact ih (.inl (aheadTail (aheadTail (aheadFilled skipped) (by decide)) (by decide))) read
    next found =>
      rw [found] at skipped
      exact ih (.inl (aheadTail (aheadTail (aheadFilled skipped) (by decide)) (by decide))) read
    next found =>
      rw [found] at skipped
      exact ih (.inl (aheadTail (aheadTail (aheadFilled skipped) (by decide)) (by decide))) read
    next found =>
      rw [found] at skipped
      obtain ⟨⟨item, more⟩, inner, read⟩ := okBind read
      rcases behindItem (aheadFilled skipped) inner with ahead | rfl
      · exact ih (.inl ahead) read
      · exact absurd read classInsideOpen

theorem aheadClass {n verbose cs e rest} (ahead : Ahead n cs)
    (read : readClass verbose cs = .ok (e, rest)) : Ahead n rest := by
  obtain ⟨⟨body, more⟩, inner, last⟩ := okBind read
  cases last
  exact aheadClassBody (leftOpenClass (.inl ahead)) inner

end Signpost.Regex
