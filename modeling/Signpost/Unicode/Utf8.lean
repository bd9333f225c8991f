/-! Spans of code points as sequences of byte ranges: a sequence stands for the encodings
whose bytes lie in its ranges, each byte free of the others. -/
namespace Signpost.Unicode.Utf8

abbrev ByteRange := Nat × Nat

/- The numbers from `lo` to `hi` by their digits to the base 64, a leading number and `k`
digits behind it, split where the digits do not vary freely. -/
def digitRanges : Nat → Nat → Nat → List (List (Nat × Nat))
  | 0, lo, hi => [[(lo, hi)]]
  | k + 1, lo, hi =>
    let unit := 64 ^ (k + 1)
    let first := lo / unit
    let last := hi / unit
    let opens := lo % unit == 0
    let closes := hi % unit == unit - 1
    if first == last then (digitRanges k (lo % unit) (hi % unit)).map ((first, first) :: ·)
    else
      let start := if opens then [] else
        (digitRanges k (lo % unit) (unit - 1)).map ((first, first) :: ·)
      let stop := if closes then [] else
        (digitRanges k 0 (hi % unit)).map ((last, last) :: ·)
      let left := if opens then first else first + 1
      let right := if closes then last + 1 else last
      let whole := if left < right then
        [(left, right - 1) :: List.replicate (k + 1) (0, 63)] else []
      start ++ whole ++ stop

def encode (lead : Nat) (digits : List (Nat × Nat)) : List ByteRange :=
  match digits with
  | [] => []
  | (lo, hi) :: rest => (lo + lead, hi + lead) :: rest.map fun d => (d.1 + 128, d.2 + 128)

/- The code points whose encodings have the same length: the first and the last, how many
bytes continue, and the mark of the lead byte. -/
structure Length where
  first : Nat
  last : Nat
  tail : Nat
  lead : Nat
  deriving DecidableEq, Repr

def lengths : List Length :=
  [⟨0, 0x7f, 0, 0⟩, ⟨0x80, 0x7ff, 1, 0xc0⟩, ⟨0x800, 0xffff, 2, 0xe0⟩,
   ⟨0x10000, 0x10ffff, 3, 0xf0⟩]

def sequences (span : Nat × Nat) : List (List ByteRange) :=
  lengths.flatMap fun l =>
    let lo := Nat.max span.1 l.first
    let hi := Nat.min span.2 l.last
    if lo ≤ hi then (digitRanges l.tail lo hi).map (encode l.lead) else []

end Signpost.Unicode.Utf8
