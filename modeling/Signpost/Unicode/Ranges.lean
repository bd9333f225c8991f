/-! Sets of numbers as ascending borders: a number is inside when an odd number of borders
lie at or below it. Tables are written as run lengths, a gap and a run in turn. -/
namespace Signpost.Unicode

/- The decimal numbers of a text, set apart by any other characters. `current` is the
number being read. -/
def decimals (current : Option Nat) : List Char → List Nat
  | [] => current.toList
  | c :: cs =>
    if c.isDigit then decimals (some (current.getD 0 * 10 + (c.toNat - '0'.toNat))) cs
    else current.toList ++ decimals none cs

def runningSums (sum : Nat) : List Nat → List Nat
  | [] => []
  | n :: ns => (sum + n) :: runningSums (sum + n) ns

structure Ranges where
  borders : Array Nat
  deriving Repr

namespace Ranges

def ofRuns (text : String) : Ranges :=
  ⟨(runningSums 0 (decimals none text.toList)).toArray⟩

/- How many borders among those from `lo` up to `hi` lie at or below `n`, plus `lo`. The
borders ascend, so halving the interval finds the place. -/
def rank (borders : Array Nat) (n : Nat) : Nat → Nat → Nat → Nat
  | 0, lo, _ => lo
  | fuel + 1, lo, hi =>
    if lo < hi then
      let mid := (lo + hi) / 2
      if borders.getD mid 0 ≤ n then rank borders n fuel (mid + 1) hi
      else rank borders n fuel lo mid
    else lo

def contains (r : Ranges) (n : Nat) : Bool :=
  rank r.borders n r.borders.size 0 r.borders.size % 2 == 1

end Ranges
end Signpost.Unicode
