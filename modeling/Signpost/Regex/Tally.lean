/-! Counting the states of an automaton over bytes, which reads forward or backward. A state
takes thirty-two bytes, a range of bytes in a state with several takes eight more and a way
out of a fork four. -/
namespace Signpost.Regex

inductive Direction
  | forward | backward
  deriving DecidableEq, Repr

structure Tally where
  states : Nat := 0
  bytes : Nat := 0
  deriving DecidableEq, Repr

def byteLimit : Nat := 10485760

namespace Tally

def state (t : Tally) (ranges : Nat) : Tally := ⟨t.states + 1, t.bytes + 32 + 8 * ranges⟩

def waysOut (t : Tally) (n : Nat) : Tally := { t with bytes := t.bytes + 4 * n }

/- `n` times `step`, given up once the limit is exceeded. -/
def times (step : Tally → Tally) : Nat → Tally → Tally
  | 0, t => t
  | n + 1, t => if byteLimit < t.bytes then t else times step n (step t)

end Tally

/- How a part is laid out, and how many ways out its last state counts where that is joined
to what follows. -/
structure Layout where
  lay : Tally → Tally
  joins : Nat

namespace Layout

def joined (l : Layout) (t : Tally) : Tally := (l.lay t).waysOut l.joins

def laySequence : List Layout → Tally → Tally
  | [], t => t
  | [l], t => l.lay t
  | l :: rest, t => laySequence rest (l.joined t)

def sequence (ls : List Layout) : Layout :=
  ⟨laySequence ls, (ls.getLast?.map Layout.joins).getD 0⟩

/- The fork and the state behind a choice come after its second branch. -/
def choice : List Layout → Layout
  | a :: b :: rest =>
    let fork (t : Tally) : Tally := ((t.state 0).state 0).waysOut (2 + a.joins + b.joins)
    let branch (t : Tally) (l : Layout) : Tally := (l.lay t).waysOut (1 + l.joins)
    ⟨fun t => rest.foldl branch (fork (b.lay (a.lay t))), 0⟩
  | _ => ⟨id, 0⟩

end Layout
end Signpost.Regex
