import Mathlib.Data.List.Forall2
import Signpost.Proofs.Regex.Groups

/-! The numbers of capture groups. The reader numbers groups as it opens them, so that the
numbers from one on stand for one group each, open or closed; a node has no groups but those
of its expression. -/
namespace Signpost.Regex

namespace GroupKind

def numbers : GroupKind → List Nat
  | capture index => [index]
  | scope _ => []

def own (kind : GroupKind) (body : Expr) : List (Nat × Expr) := kind.numbers.map (·, body)

theorem ownNumbers (kind : GroupKind) (body : Expr) :
    (kind.own body).map Prod.fst = kind.numbers := by
  rw [own, List.map_map]
  exact List.map_id _

end GroupKind

namespace Expr

/- The capture groups, by number. -/
def captured : Expr → List (Nat × Expr)
  | group kind body => kind.own body ++ body.captured
  | times _ _ _ body => body.captured
  | seq a b | alt a b => a.captured ++ b.captured
  | _ => []

theorem foldCaptured {join : Expr → Expr → Expr}
    (parts : ∀ a b, (join a b).captured = a.captured ++ b.captured) (before : List Expr)
    (last : Expr) : (before.foldl (fun rest part => join part rest) last).captured.Perm
      (last.captured ++ before.flatMap captured) := by
  induction before generalizing last with
  | nil => simp
  | cons part before ih =>
    refine (ih (join part last)).trans ?_
    rw [parts, List.flatMap_cons, ← List.append_assoc]
    exact List.perm_append_comm.append_right _

theorem sequenceCaptured (items : List Expr) :
    (sequence items).captured.Perm (items.flatMap captured) := by
  cases items with
  | nil => exact .nil
  | cons last before => exact foldCaptured (fun _ _ => rfl) before last

theorem choiceCaptured (branches : List Expr) :
    (choice branches).captured.Perm (branches.flatMap captured) := by
  cases branches with
  | nil => exact .nil
  | cons last before => exact foldCaptured (fun _ _ => rfl) before last

end Expr

namespace Node

theorem timesCaptured (min : Nat) (max : Option Nat) (greedy : Bool) (a : Node) :
    (a.times min max greedy).captured = [] ∨ (a.times min max greedy).captured = a.captured := by
  unfold times
  extract_lets least most
  split
  · exact .inl rfl
  · split
    · exact .inr rfl
    · exact .inr rfl

end Node

namespace Expr

/- The groups of a node are groups of its expression, in the same order, with their bodies
worked in the same way. -/
def Worked (group : Nat × Node) (source : Nat × Expr) : Prop :=
  group.1 = source.1 ∧ ∃ f f', source.2.node f = .ok (group.2, f')

def WorkedFrom (groups : List (Nat × Node)) (sources : List (Nat × Expr)) : Prop :=
  ∃ kept, kept.Sublist sources ∧ List.Forall₂ Worked groups kept

theorem workedAppend {groups others : List (Nat × Node)} {sources more : List (Nat × Expr)}
    (first : WorkedFrom groups sources) (second : WorkedFrom others more) :
    WorkedFrom (groups ++ others) (sources ++ more) := by
  obtain ⟨kept, within, each⟩ := first
  obtain ⟨rest, inside, every⟩ := second
  exact ⟨kept ++ rest, within.append inside, List.rel_append each every⟩

theorem workedNone (sources : List (Nat × Expr)) : WorkedFrom [] sources :=
  ⟨[], List.nil_sublist _, .nil⟩

theorem workedNumbers {groups : List (Nat × Node)} {sources : List (Nat × Expr)}
    (worked : WorkedFrom groups sources) :
    (groups.map Prod.fst).Sublist (sources.map Prod.fst) := by
  obtain ⟨kept, within, each⟩ := worked
  have same : groups.map Prod.fst = kept.map Prod.fst := by
    clear within
    induction each with
    | nil => rfl
    | cons first rest ih => rw [List.map_cons, List.map_cons, first.1, ih]
  rw [same]
  exact within.map Prod.fst

theorem workedMember {groups : List (Nat × Node)} {sources : List (Nat × Expr)}
    (worked : WorkedFrom groups sources) {index : Nat} {body : Node}
    (member : (index, body) ∈ groups) :
    ∃ e f f', (index, e) ∈ sources ∧ e.node f = .ok (body, f') := by
  obtain ⟨kept, within, each⟩ := worked
  have found : ∃ source ∈ kept, Worked (index, body) source := by
    clear within
    induction each with
    | nil => cases member
    | cons first rest ih =>
      rcases List.mem_cons.mp member with rfl | member
      · exact ⟨_, List.mem_cons_self, first⟩
      · obtain ⟨source, inside, same⟩ := ih member
        exact ⟨source, List.mem_cons_of_mem _ inside, same⟩
  obtain ⟨⟨number, e⟩, inside, same, f, f', done⟩ := found
  cases same
  exact ⟨e, f, f', within.subset inside, done⟩

theorem nodeWorked {e : Expr} {a : Node} {f f' : Flags} (worked : e.node f = .ok (a, f')) :
    WorkedFrom a.captured e.captured := by
  induction e generalizing a f f' with
  | empty | flags _ | anchor _ =>
    cases worked
    exact workedNone _
  | literal _ | dot | shorthand _ _ | property _ _ =>
    obtain ⟨s, _, same⟩ := okBind worked
    cases same
    exact workedNone _
  | bracket negated body =>
    obtain ⟨s, _, worked⟩ := okBind worked
    obtain ⟨t, _, same⟩ := okBind worked
    cases same
    exact workedNone _
  | times min max greedy body ih =>
    obtain ⟨⟨b, g⟩, inner, same⟩ := okBind worked
    cases same
    rcases Node.timesCaptured min max (greedy != f'.swapGreed) b with none | same
    · rw [none]
      exact workedNone _
    · rw [same]
      exact ih inner
  | group kind body ih =>
    cases kind with
    | capture index =>
      obtain ⟨⟨b, g⟩, inner, same⟩ := okBind worked
      cases same
      obtain ⟨kept, within, each⟩ := ih inner
      exact ⟨(index, body) :: kept, within.cons_cons _, .cons ⟨rfl, _, _, inner⟩ each⟩
    | scope edit =>
      obtain ⟨⟨b, g⟩, inner, same⟩ := okBind worked
      cases same
      have inside := ih inner
      exact inside
  | seq x y ihx ihy | alt x y ihx ihy =>
    obtain ⟨⟨b, g⟩, first, worked⟩ := okBind worked
    obtain ⟨⟨c, g'⟩, second, same⟩ := okBind worked
    cases same
    exact workedAppend (ihx first) (ihy second)

/- However the flags stand, the group is not dropped. -/
def Holds (index : Nat) (e : Expr) : Prop :=
  ∀ f f' a, e.node f = .ok (a, f') → index ∈ a.numbers

theorem holdsFold {index : Nat} {join : Expr → Expr → Expr}
    (last : ∀ a b, Holds index b → Holds index (join a b)) (before : List Expr) {e : Expr}
    (holds : Holds index e) : Holds index (before.foldl (fun rest part => join part rest) e) := by
  induction before generalizing e with
  | nil => exact holds
  | cons part before ih => exact ih (last part e holds)

theorem holdsSeq {index : Nat} (a b : Expr) (holds : Holds index a ∨ Holds index b) :
    Holds index (.seq a b) := by
  intro f f' n worked
  obtain ⟨⟨x, g⟩, first, worked⟩ := okBind worked
  obtain ⟨⟨y, g'⟩, second, same⟩ := okBind worked
  cases same
  rw [Node.numbers, Node.captured, List.map_append]
  rcases holds with here | there
  · exact List.mem_append_left _ (here _ _ _ first)
  · exact List.mem_append_right _ (there _ _ _ second)

theorem holdsAlt {index : Nat} (a b : Expr) (holds : Holds index b) :
    Holds index (.alt a b) := by
  intro f f' n worked
  obtain ⟨⟨x, g⟩, first, worked⟩ := okBind worked
  obtain ⟨⟨y, g'⟩, second, same⟩ := okBind worked
  cases same
  rw [Node.numbers, Node.captured, List.map_append]
  exact List.mem_append_right _ (holds _ _ _ second)

theorem holdsOptional {index : Nat} (greedy : Bool) (body : Expr) :
    Holds index (.times 0 (some 1) greedy (.group (.capture index) body)) := by
  intro f f' n worked
  obtain ⟨⟨a, g⟩, inner, same⟩ := okBind worked
  cases same
  obtain ⟨⟨b, h⟩, _, same⟩ := okBind inner
  cases same
  rw [Node.times]
  cases (Node.group (some index) b).onlyEmpty <;> exact List.mem_cons_self

end Expr

theorem propertyPlain {verbose negated : Bool} {cs rest : Chars} {e : Expr}
    (read : readProperty verbose negated cs = .ok (e, rest)) : e.captured = [] := by
  unfold readProperty at read
  split at read
  · cases read
  · split at read
    · cases read
    · cases read
      rfl
  · split at read
    · cases read
    · cases read
      rfl

theorem boundaryPlain {verbose : Bool} {cs rest : Chars} {e : Expr}
    (read : readBoundary verbose cs = .ok (e, rest)) : e.captured = [] := by
  unfold readBoundary at read
  repeat' split at read
  all_goals
    cases read
    try rfl

theorem escapePlain {verbose : Bool} {cs rest : Chars} {e : Expr}
    (read : readEscape verbose cs = .ok (e, rest)) : e.captured = [] := by
  have literal : ∀ {step : Except Fault (Literal × Chars)}
      {next : Literal × Chars → Except Fault (Expr × Chars)},
      (∀ l left, next (l, left) = .ok (.literal l, left)) → step >>= next = .ok (e, rest) →
        e.captured = [] := by
    intro step next gives read
    obtain ⟨⟨l, left⟩, _, same⟩ := okBind read
    cases (gives l left).symm.trans same
    rfl
  unfold readEscape at read
  split at read
  · cases read
  split at read
  · exact literal (fun _ _ => rfl) read
  · exact literal (fun _ _ => rfl) read
  · exact literal (fun _ _ => rfl) read
  · exact propertyPlain read
  · exact propertyPlain read
  case h_20 => exact boundaryPlain read
  all_goals
    try
      cases read
      rfl
  split at read
  · cases read
  · split at read
    · cases read
      rfl
    · cases read

theorem classPlain {verbose : Bool} {cs rest : Chars} {e : Expr}
    (read : readClass verbose cs = .ok (e, rest)) : e.captured = [] := by
  obtain ⟨⟨body, left⟩, _, same⟩ := okBind read
  cases same
  rfl

namespace Frame

def captured (f : Frame) : List (Nat × Expr) := (f.items ++ f.branches).flatMap Expr.captured

end Frame

namespace Reader

/- The groups that are closed. -/
def captured (r : Reader) : List (Nat × Expr) :=
  (r.items ++ r.branches).flatMap Expr.captured ++ r.frames.flatMap Frame.captured

def numbers (r : Reader) : List Nat :=
  r.captured.map Prod.fst ++ r.frames.flatMap (·.kind.numbers)

/- Each number from one on stands for one group. -/
def Numbered (r : Reader) : Prop := r.numbers.Perm (List.range' 1 r.captures)

theorem insideCaptured (r : Reader) :
    r.inside.captured.Perm ((r.items ++ r.branches).flatMap Expr.captured) := by
  refine (Expr.choiceCaptured _).trans ?_
  rw [List.flatMap_cons, List.flatMap_append]
  exact (Expr.sequenceCaptured r.items).append_right _

/- Groups once closed stay, and the numbering goes on. -/
def Keeps (r q : Reader) : Prop := r.captured ⊆ q.captured ∧ (r.Numbered → q.Numbered)

theorem keepsTrans {p q r : Reader} (first : p.Keeps q) (second : q.Keeps r) : p.Keeps r :=
  ⟨List.Subset.trans first.1 second.1, fun numbered => second.2 (first.2 numbered)⟩

theorem keepsSame {r q : Reader} (captured : q.captured.Perm r.captured)
    (frames : q.frames.flatMap (·.kind.numbers) = r.frames.flatMap (·.kind.numbers))
    (captures : q.captures = r.captures) : r.Keeps q := by
  refine ⟨captured.symm.subset, fun numbered => ?_⟩
  rw [Numbered, numbers, frames, captures]
  exact ((captured.map Prod.fst).append_right _).trans numbered

theorem pushKeeps (r : Reader) {e : Expr} (plain : e.captured = []) : r.Keeps (r.push e) :=
  keepsSame (by simp [captured, push, plain]) rfl rfl

theorem branchKeeps (r : Reader) : r.Keeps r.nextBranch := by
  refine keepsSame ?_ rfl rfl
  refine List.Perm.append_right _ ?_
  rw [nextBranch, List.nil_append, List.flatMap_cons, List.flatMap_append]
  exact (Expr.sequenceCaptured r.items).append_right _

theorem captureKeeps (r : Reader) (names : List Chars) :
    r.Keeps ({ r with captures := r.captures + 1, names }.openGroup (.capture (r.captures + 1))
      r.verbose) := by
  refine ⟨List.Subset.refl _, fun numbered => ?_⟩
  have next : List.range' 1 (r.captures + 1) = List.range' 1 r.captures ++ [r.captures + 1] := by
    rw [List.range'_concat, Nat.one_mul, Nat.add_comm 1]
  rw [Numbered, openGroup, next]
  refine List.perm_middle.trans ?_
  exact ((List.Perm.cons _ numbered).trans (List.perm_append_singleton _ _).symm)

theorem openWithKeeps {r q : Reader} {opening : Opening} (opened : r.openWith opening = .ok q) :
    r.Keeps q := by
  unfold openWith at opened
  split at opened
  · cases opened
    exact keepsTrans (pushKeeps r rfl) (keepsSame (.refl _) rfl rfl)
  · cases opened
    exact keepsSame (.refl _) rfl rfl
  next name =>
    cases name with
    | none =>
      cases opened
      exact captureKeeps r r.names
    | some name =>
      simp only at opened
      split at opened
      · cases opened
      · cases opened
        exact captureKeeps r (name :: r.names)

theorem closeCaptured {r q : Reader} (closed : r.closeGroup = .ok q) :
    ∃ f frames, r.frames = f :: frames ∧ q.frames = frames ∧ q.captures = r.captures ∧
      q.captured.Perm (f.kind.own r.inside ++ r.captured) := by
  unfold closeGroup at closed
  split at closed
  · cases closed
  next f frames opened =>
    cases closed
    refine ⟨f, frames, opened, rfl, rfl, ?_⟩
    have before : r.captured.Perm
        (r.inside.captured ++ (f.captured ++ frames.flatMap Frame.captured)) := by
      rw [captured, opened, List.flatMap_cons]
      exact (insideCaptured r).symm.append_right _
    refine List.Perm.trans (.of_eq ?_) (before.symm.append_left _)
    simp only [captured, Frame.captured, Expr.captured, List.cons_append, List.flatMap_cons,
      List.append_assoc]

theorem closeKeeps {r q : Reader} (closed : r.closeGroup = .ok q) : r.Keeps q := by
  obtain ⟨f, frames, opened, rest, captures, groups⟩ := closeCaptured closed
  refine ⟨fun group member => groups.symm.subset (List.mem_append_right _ member), ?_⟩
  intro numbered
  have named := groups.map Prod.fst
  rw [List.map_append, GroupKind.ownNumbers] at named
  rw [Numbered, numbers, opened, List.flatMap_cons] at numbered
  rw [Numbered, numbers, rest, captures]
  refine List.Perm.trans ?_ numbered
  rw [← List.append_assoc]
  exact (named.trans List.perm_append_comm).append_right _

theorem repeatOpKeepsGroups {r q : Reader} {min : Nat} {max : Option Nat} {cs rest : Chars}
    (read : r.repeatOp min max cs = .ok (q, rest)) : r.Keeps q := by
  obtain ⟨p, repeated, same⟩ := okBind read
  cases same
  unfold repeatLast at repeated
  split at repeated
  next last before items =>
    split at repeated
    · cases repeated
      refine keepsSame (.of_eq ?_) rfl rfl
      rw [captured, captured, items]
      rfl
    · cases repeated
  · cases repeated

theorem readKeeps {r q : Reader} {c : Char} {cs rest : Chars}
    (read : r.read c cs = .ok (q, rest)) : r.Keeps q := by
  unfold Reader.read at read
  split at read
  · obtain ⟨⟨opening, more⟩, _, read⟩ := okBind read
    obtain ⟨p, opened, same⟩ := okBind read
    cases same
    exact openWithKeeps opened
  · obtain ⟨p, closed, same⟩ := okBind read
    cases same
    exact closeKeeps closed
  · cases read
    exact branchKeeps r
  · obtain ⟨⟨e, more⟩, inner, same⟩ := okBind read
    cases same
    exact pushKeeps r (classPlain inner)
  · exact repeatOpKeepsGroups read
  · exact repeatOpKeepsGroups read
  · exact repeatOpKeepsGroups read
  · obtain ⟨⟨⟨min, max⟩, more⟩, _, read⟩ := okBind read
    exact repeatOpKeepsGroups read
  · obtain ⟨⟨e, more⟩, inner, same⟩ := okBind read
    cases same
    exact pushKeeps r (escapePlain inner)
  all_goals
    cases read
    exact pushKeeps r rfl

/- By induction on the steps. -/
theorem readAllKeeps {r q : Reader} {fuel : Nat} {cs : Chars} (read : r.readAll fuel cs = .ok q) :
    r.Keeps q := by
  induction fuel generalizing r cs with
  | zero =>
    cases read
    exact ⟨List.Subset.refl _, id⟩
  | succ fuel ih =>
    simp only [readAll] at read
    split at read
    · cases read
      exact ⟨List.Subset.refl _, id⟩
    · obtain ⟨⟨p, rest⟩, taken, read⟩ := okBind read
      exact keepsTrans (readKeeps taken) (ih read)

end Reader
end Signpost.Regex
