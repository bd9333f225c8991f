import Signpost.Regex.Basic

/-! What an expression matches, said of its node alone: which stretches of a text it takes
and what it saves on them. -/
namespace Signpost.Regex

/- A position with what was saved on the way to it. -/
structure Point where
  pos : Nat
  slots : Slots := []

namespace Point

def advance (s : Point) : Point := { s with pos := s.pos + 1 }

def save (s : Point) (slot : Nat) : Point := { s with slots := (slot, s.pos) :: s.slots }

def thread (s : Point) (pc start : Nat) : Thread := ⟨pc, s.pos, start, s.slots⟩

end Point

def Rounds (r : Point → Point → Prop) : Nat → Point → Point → Prop
  | 0, s, t => t = s
  | n + 1, s, t => ∃ u, r s u ∧ Rounds r n u t

theorem roundsAppend {r : Point → Point → Prop} {m n s u t} (first : Rounds r m s u)
    (second : Rounds r n u t) : Rounds r (m + n) s t := by
  induction m generalizing s with
  | zero =>
    have same : u = s := first
    subst same
    simpa using second
  | succ m ih =>
    obtain ⟨v, one, more⟩ := first
    rw [Nat.succ_add]
    exact ⟨v, one, ih more⟩

theorem roundsSplit {r : Point → Point → Prop} (m : Nat) {n s t} (rounds : Rounds r (m + n) s t) :
    ∃ u, Rounds r m s u ∧ Rounds r n u t := by
  induction m generalizing s with
  | zero => exact ⟨s, rfl, by simpa using rounds⟩
  | succ m ih =>
    rw [Nat.succ_add] at rounds
    obtain ⟨v, one, more⟩ := rounds
    obtain ⟨u, first, second⟩ := ih more
    exact ⟨u, ⟨v, one, first⟩, second⟩

namespace Node

/- A repetition whose bounds are reversed goes the least number of rounds. -/
def Match (text : Array Char) : Node → Point → Point → Prop
  | empty, s, t => t = s
  | set a, s, t => ∃ c, text[s.pos]? = some c ∧ a.contains c = true ∧ t = s.advance
  | look l, s, t => l.holds text s.pos = true ∧ t = s
  | seq a b, s, t => ∃ u, a.Match text s u ∧ b.Match text u t
  | alt a b, s, t => a.Match text s t ∨ b.Match text s t
  | group none a, s, t => a.Match text s t
  | group (some index) a, s, t =>
    ∃ u, a.Match text (s.save (2 * index)) u ∧ t = u.save (2 * index + 1)
  | repeated min max _ a, s, t =>
    ∃ n, min ≤ n ∧ (∀ m ∈ max, n ≤ min + (m - min)) ∧ Rounds (a.Match text) n s t

theorem roundsInside {r : Point → Point → Prop} {size n s t}
    (step : ∀ s t, s.pos ≤ size → r s t → t.pos ≤ size) (inside : s.pos ≤ size)
    (rounds : Rounds r n s t) : t.pos ≤ size := by
  induction n generalizing s with
  | zero =>
    cases rounds
    exact inside
  | succ n ih =>
    obtain ⟨u, one, more⟩ := rounds
    exact ih (step s u inside one) more

theorem matchInside {a : Node} {text s t} (inside : s.pos ≤ text.size)
    (taken : a.Match text s t) : t.pos ≤ text.size := by
  induction a generalizing s t with
  | empty =>
    cases taken
    exact inside
  | set a =>
    obtain ⟨c, found, _, rfl⟩ := taken
    obtain ⟨bound, _⟩ := Array.getElem?_eq_some_iff.mp found
    exact bound
  | look l =>
    cases taken.2
    exact inside
  | seq a b iha ihb =>
    obtain ⟨u, first, second⟩ := taken
    exact ihb (iha inside first) second
  | alt a b iha ihb =>
    rcases taken with first | second
    · exact iha inside first
    · exact ihb inside second
  | group index a ih =>
    cases index with
    | none => exact ih inside taken
    | some index =>
      obtain ⟨u, body, rfl⟩ := taken
      have bound : u.pos ≤ text.size := ih (s := s.save (2 * index)) inside body
      exact bound
  | repeated min max greedy a ih =>
    obtain ⟨n, _, _, rounds⟩ := taken
    exact roundsInside (fun s t => ih) inside rounds

theorem textStartHolds {text : Array Char} {pos : Nat} (inside : pos ≤ text.size)
    (holds : Look.textStart.holds text pos = true) : pos = 0 := by
  cases pos with
  | zero => rfl
  | succ pos =>
    simp only [Look.holds, before?, Option.isNone_iff_eq_none, Array.getElem?_eq_none_iff] at holds
    omega

theorem textEndHolds {text : Array Char} {pos : Nat} (inside : pos ≤ text.size)
    (holds : Look.textEnd.holds text pos = true) : pos = text.size := by
  simp only [Look.holds, after?, Option.isNone_iff_eq_none, Array.getElem?_eq_none_iff] at holds
  omega

end Node
end Signpost.Regex
