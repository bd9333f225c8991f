import Signpost.Proofs.Regex.Sequence
import Signpost.Regex.Reader

/-! Expressions with no capture groups, flags or anchors. Whether one takes a stretch of a text
depends on nothing but the stretch. -/
namespace Signpost.Regex

namespace Expr

/- A group that sets no flags keeps its inside apart and is no part of this. -/
def isBare : Expr → Bool
  | flags _ | anchor _ | group (.capture _) _ => false
  | group (.scope edit) body => edit.isEmpty && body.isBare
  | times _ _ _ body => body.isBare
  | seq a b | alt a b => a.isBare && b.isBare
  | _ => true

theorem foldBare {join : Expr → Expr → Expr}
    (parts : ∀ a b, (join a b).isBare = (a.isBare && b.isBare)) (before : List Expr) (last : Expr) :
    (before.foldl (fun rest part => join part rest) last).isBare = true ↔
      ∀ e ∈ last :: before, e.isBare = true := by
  induction before generalizing last with
  | nil => simp
  | cons part before ih =>
    rw [List.foldl_cons, ih]
    simp [parts, and_left_comm, and_assoc]

theorem sequenceBare (items : List Expr) :
    (sequence items).isBare = true ↔ ∀ e ∈ items, e.isBare = true := by
  cases items with
  | nil => simp [sequence, isBare]
  | cons last before => exact foldBare (fun _ _ => rfl) before last

theorem choiceBare (branches : List Expr) :
    (choice branches).isBare = true ↔ ∀ e ∈ branches, e.isBare = true := by
  cases branches with
  | nil => simp [choice, isBare]
  | cons last before => exact foldBare (fun _ _ => rfl) before last

end Expr

def Powers (language : List Char → Prop) : Nat → List Char → Prop
  | 0, w => w = []
  | n + 1, w => ∃ u v, language u ∧ Powers language n v ∧ w = u ++ v

namespace Node

def isBare : Node → Bool
  | look _ | group (some _) _ => false
  | group none a | repeated _ _ _ a => a.isBare
  | seq a b | alt a b => a.isBare && b.isBare
  | empty | set _ => true

theorem timesBare (min : Nat) (max : Option Nat) (greedy : Bool) {a : Node}
    (bare : a.isBare = true) : (a.times min max greedy).isBare = true := by
  unfold times
  extract_lets least most
  split
  · rfl
  · split
    · exact bare
    · exact bare

theorem groupsBare {a : Node} (bare : a.isBare = true) : a.lastGroup = 0 := by
  induction a with
  | empty | set _ => rfl
  | look _ => cases bare
  | seq a b iha ihb | alt a b iha ihb =>
    simp only [isBare, Bool.and_eq_true] at bare
    rw [lastGroup, iha bare.1, ihb bare.2]
    rfl
  | group index a ih =>
    cases index with
    | none =>
      rw [lastGroup, ih bare]
      rfl
    | some index => cases bare
  | repeated _ _ _ a ih => exact ih bare

/- The texts that a node without groups and anchors takes. -/
def Spells : Node → List Char → Prop
  | empty, w => w = []
  | set a, w => ∃ c, a.contains c = true ∧ w = [c]
  | look _, _ => False
  | seq a b, w => ∃ u v, a.Spells u ∧ b.Spells v ∧ w = u ++ v
  | alt a b, w => a.Spells w ∨ b.Spells w
  | group _ a, w => a.Spells w
  | repeated min max _ a, w =>
    ∃ n, min ≤ n ∧ (∀ m ∈ max, n ≤ min + (m - min)) ∧ Powers a.Spells n w

section
variable {text : Array Char}

theorem takesBoth {r q : Point → Point → Prop} {l m : List Char → Prop} {s t : Point}
    (first : ∀ {s t}, r s t ↔ ∃ w, l w ∧ Takes text w s t)
    (second : ∀ {s t}, q s t ↔ ∃ w, m w ∧ Takes text w s t) :
    (∃ u, r s u ∧ q u t) ↔
      ∃ w, (∃ u v, l u ∧ m v ∧ w = u ++ v) ∧ Takes text w s t := by
  constructor
  · intro given
    obtain ⟨p, one, two⟩ := given
    obtain ⟨u, here, front⟩ := first.mp one
    obtain ⟨v, there, back⟩ := second.mp two
    exact ⟨_, ⟨u, v, here, there, rfl⟩, takesAppend.mpr ⟨p, front, back⟩⟩
  · intro given
    obtain ⟨_, ⟨u, v, here, there, rfl⟩, taken⟩ := given
    obtain ⟨p, front, back⟩ := takesAppend.mp taken
    exact ⟨p, first.mpr ⟨u, here, front⟩, second.mpr ⟨v, there, back⟩⟩

theorem takesPowers {r : Point → Point → Prop} {l : List Char → Prop}
    (one : ∀ {s t}, r s t ↔ ∃ w, l w ∧ Takes text w s t) {n : Nat} {s t : Point} :
    Rounds r n s t ↔ ∃ w, Powers l n w ∧ Takes text w s t := by
  induction n generalizing s t with
  | zero => simp only [Rounds, Powers, exists_eq_left, takesNothing]
  | succ n ih => exact takesBoth one ih

theorem matchSpelled {a : Node} (bare : a.isBare = true) {s t : Point} :
    a.Match text s t ↔ ∃ w, a.Spells w ∧ Takes text w s t := by
  induction a generalizing s t with
  | empty => simp only [Match, Spells, exists_eq_left, takesNothing]
  | set a =>
    rw [takesSet]
    constructor
    · intro given
      obtain ⟨c, inside, taken⟩ := given
      exact ⟨[c], ⟨c, inside, rfl⟩, taken⟩
    · intro given
      obtain ⟨_, ⟨c, inside, rfl⟩, taken⟩ := given
      exact ⟨c, inside, taken⟩
  | look _ => cases bare
  | seq a b iha ihb =>
    simp only [isBare, Bool.and_eq_true] at bare
    exact takesBoth (iha bare.1) (ihb bare.2)
  | alt a b iha ihb =>
    simp only [isBare, Bool.and_eq_true] at bare
    simp only [Match, Spells, iha bare.1, ihb bare.2, or_and_right, exists_or]
  | group index a ih =>
    cases index with
    | none => exact ih bare
    | some index => cases bare
  | repeated min max greedy a ih =>
    simp only [Match, Spells, takesPowers (ih bare)]
    constructor
    · intro given
      obtain ⟨n, least, most, w, powers, taken⟩ := given
      exact ⟨w, ⟨n, least, most, powers⟩, taken⟩
    · intro given
      obtain ⟨w, ⟨n, least, most, powers⟩, taken⟩ := given
      exact ⟨n, least, most, w, powers, taken⟩

end

end Node

/- The flags are the same behind a bare expression as before it. -/
theorem Expr.nodeBare {e : Expr} {a : Node} {f f' : Flags} (bare : e.isBare = true)
    (worked : e.node f = .ok (a, f')) : f' = f ∧ a.isBare = true := by
  induction e generalizing a f f' with
  | empty =>
    cases worked
    exact ⟨rfl, rfl⟩
  | flags _ | anchor _ => cases bare
  | literal _ | dot | shorthand _ _ | property _ _ =>
    obtain ⟨s, _, same⟩ := okBind worked
    cases same
    exact ⟨rfl, rfl⟩
  | bracket negated body =>
    obtain ⟨s, _, worked⟩ := okBind worked
    obtain ⟨t, _, same⟩ := okBind worked
    cases same
    exact ⟨rfl, rfl⟩
  | times min max greedy body ih =>
    obtain ⟨⟨b, g⟩, inner, same⟩ := okBind worked
    cases same
    obtain ⟨rfl, inside⟩ := ih bare inner
    exact ⟨rfl, Node.timesBare _ _ _ inside⟩
  | group kind body ih =>
    cases kind with
    | capture index => cases bare
    | scope edit =>
      simp only [isBare, Bool.and_eq_true] at bare
      obtain ⟨⟨b, g⟩, inner, same⟩ := okBind worked
      cases same
      exact ⟨rfl, (ih bare.2 inner).2⟩
  | seq x y ihx ihy | alt x y ihx ihy =>
    simp only [isBare, Bool.and_eq_true] at bare
    obtain ⟨⟨b, g⟩, first, worked⟩ := okBind worked
    obtain ⟨⟨c, g'⟩, second, same⟩ := okBind worked
    cases same
    obtain ⟨rfl, one⟩ := ihx bare.1 first
    obtain ⟨rfl, two⟩ := ihy bare.2 second
    exact ⟨rfl, by simp [Node.isBare, one, two]⟩

/- The whole text is one match. -/
def MatchesWhole (r : Regex) (w : List Char) : Prop :=
  ∃ t, r.node.Match w.toArray ⟨0, []⟩ t ∧ t.pos = w.length

theorem matchesWholeSpelled {r : Regex} (bare : r.node.isBare = true) (w : List Char) :
    r.MatchesWhole w ↔ r.node.Spells w := by
  simp only [MatchesWhole, Node.matchSpelled bare]
  constructor
  · intro given
    obtain ⟨t, ⟨u, spells, taken, rfl⟩, whole⟩ := given
    have same : u = w := taken.eq_of_length (by simpa using whole)
    exact same ▸ spells
  · intro spells
    exact ⟨_, ⟨w, spells, by simp, rfl⟩, by simp⟩

end Signpost.Regex
