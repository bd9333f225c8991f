import Mathlib.Data.List.Forall2
import Signpost.Proofs.Regex.Match

/-! Sequences as lists of their items. What a list matches is cut between its items, and an
item that takes characters from a set takes a stretch of the text. -/
namespace Signpost.Regex

namespace Node

def chain : List Node → Node
  | [] => empty
  | [a] => a
  | a :: rest => seq a (chain rest)

theorem chainBound {nodes : List Node} {n : Nat} (each : ∀ a ∈ nodes, a.lastGroup ≤ n) :
    (chain nodes).lastGroup ≤ n := by
  induction nodes with
  | nil => exact Nat.zero_le n
  | cons a rest ih =>
    have first := each a List.mem_cons_self
    have others := ih fun b member => each b (List.mem_cons_of_mem a member)
    cases rest with
    | nil => exact first
    | cons b rest => exact Nat.max_le.mpr ⟨first, others⟩

theorem chainReaches {nodes : List Node} {a : Node} (member : a ∈ nodes) :
    a.lastGroup ≤ (chain nodes).lastGroup := by
  induction nodes with
  | nil => cases member
  | cons b rest ih =>
    cases rest with
    | nil =>
      cases List.mem_singleton.mp member
      exact Nat.le_refl _
    | cons c rest =>
      rcases List.mem_cons.mp member with rfl | member
      · exact Nat.le_max_left _ _
      · exact Nat.le_trans (ih member) (Nat.le_max_right _ _)

section
variable {text : Array Char}

def MatchAll (text : Array Char) : List Node → Point → Point → Prop
  | [], s, t => t = s
  | a :: rest, s, t => ∃ u, a.Match text s u ∧ MatchAll text rest u t

theorem chainMatch {nodes : List Node} {s t : Point} :
    (chain nodes).Match text s t ↔ MatchAll text nodes s t := by
  induction nodes generalizing s with
  | nil => rfl
  | cons a rest ih =>
    cases rest with
    | nil => simp [chain, MatchAll]
    | cons b rest => simp only [chain, Match, MatchAll, ih]

theorem matchAllAppend {first second : List Node} {s t : Point} :
    MatchAll text (first ++ second) s t ↔
      ∃ u, MatchAll text first s u ∧ MatchAll text second u t := by
  induction first generalizing s with
  | nil => simp [MatchAll]
  | cons a rest ih =>
    simp only [List.cons_append, MatchAll, ih]
    constructor
    · intro given
      obtain ⟨u, one, v, more, last⟩ := given
      exact ⟨v, ⟨u, one, more⟩, last⟩
    · intro given
      obtain ⟨v, ⟨u, one, more⟩, last⟩ := given
      exact ⟨u, one, v, more, last⟩

theorem matchAllSingle {a : Node} {s t : Point} : MatchAll text [a] s t ↔ a.Match text s t := by
  simp [MatchAll]

/- The text goes on with `w` behind `s`, which `t` is the end of. Nothing is saved. -/
def Takes (text : Array Char) (w : List Char) (s t : Point) : Prop :=
  w <+: text.toList.drop s.pos ∧ t = ⟨s.pos + w.length, s.slots⟩

theorem takesNothing {s t : Point} : Takes text [] s t ↔ t = s := by
  simp [Takes]

theorem prefixAppend {α : Type} {l v w : List α} {n : Nat} :
    v ++ w <+: l.drop n ↔ v <+: l.drop n ∧ w <+: l.drop (n + v.length) := by
  constructor
  · intro given
    obtain ⟨rest, same⟩ := given
    refine ⟨⟨w ++ rest, by rw [← same, List.append_assoc]⟩, ⟨rest, ?_⟩⟩
    rw [← List.drop_drop, ← same, List.append_assoc, List.drop_left]
  · intro given
    obtain ⟨⟨first, begins⟩, ⟨second, goesOn⟩⟩ := given
    refine ⟨second, ?_⟩
    rw [← List.drop_drop, ← begins, List.drop_left] at goesOn
    rw [List.append_assoc, goesOn, begins]

theorem takesAppend {v w : List Char} {s t : Point} :
    Takes text (v ++ w) s t ↔ ∃ u, Takes text v s u ∧ Takes text w u t := by
  simp only [Takes, prefixAppend, List.length_append, ← Nat.add_assoc]
  constructor
  · intro given
    obtain ⟨⟨first, second⟩, rfl⟩ := given
    exact ⟨_, ⟨first, rfl⟩, second, rfl⟩
  · intro given
    obtain ⟨u, ⟨first, rfl⟩, second, rfl⟩ := given
    exact ⟨⟨first, second⟩, rfl⟩

theorem takesCons {c : Char} {w : List Char} {s t : Point} :
    Takes text (c :: w) s t ↔ ∃ u, Takes text [c] s u ∧ Takes text w u t :=
  takesAppend (v := [c])

theorem takesSet {a : CharSet} {s t : Point} :
    (set a).Match text s t ↔ ∃ c, a.contains c = true ∧ Takes text [c] s t := by
  have here : ∀ c, text[s.pos]? = some c ↔ [c] <+: text.toList.drop s.pos := by
    intro c
    rw [← Array.getElem?_toList, ← List.head?_drop]
    cases text.toList.drop s.pos with
    | nil => simp
    | cons d rest => simp [List.cons_prefix_cons, eq_comm]
  simp only [Match, Takes, here, Point.advance, List.length_singleton]
  constructor
  · intro given
    obtain ⟨c, found, inside, rfl⟩ := given
    exact ⟨c, inside, found, rfl⟩
  · intro given
    obtain ⟨c, inside, found, rfl⟩ := given
    exact ⟨c, found, inside, rfl⟩

theorem takesRounds {a : CharSet} {n : Nat} {s t : Point} :
    Rounds ((set a).Match text) n s t ↔
      ∃ w, w.length = n ∧ (∀ c ∈ w, a.contains c = true) ∧ Takes text w s t := by
  induction n generalizing s with
  | zero =>
    simp only [Rounds, List.length_eq_zero_iff]
    constructor
    · intro same
      subst same
      exact ⟨[], rfl, by simp, takesNothing.mpr rfl⟩
    · intro given
      obtain ⟨w, rfl, _, taken⟩ := given
      exact takesNothing.mp taken
  | succ n ih =>
    simp only [Rounds, takesSet, ih]
    constructor
    · intro given
      obtain ⟨u, ⟨c, inside, first⟩, w, length, each, more⟩ := given
      refine ⟨c :: w, by simp [length], ?_, takesCons.mpr ⟨u, first, more⟩⟩
      intro d member
      rcases List.mem_cons.mp member with rfl | member
      · exact inside
      · exact each d member
    · intro given
      obtain ⟨w, length, each, taken⟩ := given
      cases w with
      | nil => cases length
      | cons c w =>
        obtain ⟨u, first, more⟩ := takesCons.mp taken
        exact ⟨u, ⟨c, each c List.mem_cons_self, first⟩, w, Nat.succ.inj length,
          fun d member => each d (List.mem_cons_of_mem c member), more⟩

theorem takesRepeated {a : CharSet} {min : Nat} {greedy : Bool} {s t : Point} :
    (repeated min none greedy (set a)).Match text s t ↔
      ∃ w, min ≤ w.length ∧ (∀ c ∈ w, a.contains c = true) ∧ Takes text w s t := by
  constructor
  · intro given
    obtain ⟨n, enough, _, rounds⟩ := given
    obtain ⟨w, rfl, each, taken⟩ := takesRounds.mp rounds
    exact ⟨w, enough, each, taken⟩
  · intro given
    obtain ⟨w, enough, each, taken⟩ := given
    exact ⟨w.length, enough, (by rintro m ⟨⟩), takesRounds.mpr ⟨w, rfl, each, taken⟩⟩

theorem matchSeq {a b : Node} {s t : Point} :
    (seq a b).Match text s t ↔ ∃ u, a.Match text s u ∧ b.Match text u t := Iff.rfl

theorem matchOptional {greedy : Bool} {a : Node} {s t : Point} :
    (repeated 0 (some 1) greedy a).Match text s t ↔ t = s ∨ a.Match text s t := by
  constructor
  · intro given
    obtain ⟨n, _, most, rounds⟩ := given
    have bound : n ≤ 1 := most 1 rfl
    match n, bound with
    | 0, _ => exact .inl rounds
    | 1, _ =>
      obtain ⟨u, taken, rfl⟩ := rounds
      exact .inr taken
  · intro given
    rcases given with rfl | taken
    · exact ⟨0, Nat.le_refl 0, fun m _ => Nat.zero_le _, rfl⟩
    · exact ⟨1, Nat.zero_le 1, by rintro m ⟨⟩; exact Nat.le_refl 1, t, taken, rfl⟩

def literal (w : List Char) : List Node := w.map fun c => set (.single c)

theorem takesLiteral {w : List Char} {s t : Point} :
    MatchAll text (literal w) s t ↔ Takes text w s t := by
  induction w generalizing s with
  | nil => exact takesNothing.symm
  | cons c w ih =>
    rw [takesCons]
    simp only [literal, List.map_cons, MatchAll, takesSet, CharSet.containsSingle, beq_iff_eq,
      exists_eq_left] at ih ⊢
    simp only [ih]

end
end Node

namespace Expr

def chain : List Expr → Expr
  | [] => empty
  | [e] => e
  | e :: rest => seq e (chain rest)

theorem sequenceReverse (items : List Expr) : sequence items.reverse = chain items := by
  have fold : ∀ (front : List Expr) (last : Expr),
      front.foldr (fun item rest => seq item rest) last = chain (front ++ [last]) := by
    intro front last
    induction front with
    | nil => rfl
    | cons e front ih =>
      rw [List.foldr_cons, ih, List.cons_append]
      cases front <;> rfl
  rcases List.eq_nil_or_concat items with rfl | ⟨front, last, rfl⟩
  · rfl
  · rw [List.concat_eq_append, List.reverse_append, List.reverse_singleton, List.singleton_append,
      sequence, List.foldl_reverse, fold]

theorem chainNode {f : Flags} {items : List Expr} {nodes : List Node}
    (each : List.Forall₂ (fun e a => e.node f = .ok (a, f)) items nodes) :
    (chain items).node f = .ok (Node.chain nodes, f) := by
  induction each with
  | nil => rfl
  | @cons e a items nodes first rest ih =>
    cases rest with
    | nil => exact first
    | @cons e' a' items nodes second more =>
      show (seq e (chain (e' :: items))).node f = .ok (.seq a (Node.chain (a' :: nodes)), f)
      rw [node, first]
      simp only [bind, Except.bind, ih]

theorem chainDepth {items : List Expr} {n : Nat} (each : ∀ e ∈ items, e.depth ≤ n) :
    (chain items).depth ≤ n + 1 := by
  have pair : ∀ a b : Expr, a.depth ≤ n → b.depth ≤ n → (seq a b).depth ≤ n + 1 := by
    intro a b first second
    cases b with
    | seq b c => simp only [depth] at second ⊢; omega
    | _ => simp only [depth] at second ⊢; omega
  induction items with
  | nil => exact Nat.zero_le _
  | cons e rest ih =>
    have first := each e List.mem_cons_self
    have others := ih fun d member => each d (List.mem_cons_of_mem e member)
    match rest with
    | [] => exact Nat.le_succ_of_le first
    | [d] => exact pair e d first (each d (by simp))
    | c :: d :: more =>
      simp only [chain, depth] at others ⊢
      omega

end Expr
end Signpost.Regex
