import Signpost.Unicode.CharSet

/-! The members of a set written out as runs of numbers, each with its first number and the
one behind its last. The borders of a set are those of its longest runs, in ascending
order: the numbers at which membership changes. -/
namespace Signpost
namespace Unicode

abbrev Run := Nat × Nat

def keepBorder (before after : Bool) (n : Nat) (rest : List Nat) : List Nat :=
  if before == after then rest else n :: rest

def combine (f : Bool → Bool → Bool) (inA inB : Bool) : List Nat → List Nat → List Nat
  | [], [] => []
  | x :: xs, [] => keepBorder (f inA inB) (f (!inA) inB) x (combine f (!inA) inB xs [])
  | [], y :: ys => keepBorder (f inA inB) (f inA (!inB)) y (combine f inA (!inB) [] ys)
  | x :: xs, y :: ys =>
    if x < y then keepBorder (f inA inB) (f (!inA) inB) x (combine f (!inA) inB xs (y :: ys))
    else if y < x then
      keepBorder (f inA inB) (f inA (!inB)) y (combine f inA (!inB) (x :: xs) ys)
    else keepBorder (f inA inB) (f (!inA) (!inB)) x (combine f (!inA) (!inB) xs ys)
termination_by xs ys => xs.length + ys.length

def runsOf : List Nat → List Run
  | lo :: hi :: rest => (lo, hi) :: runsOf rest
  | _ => []

def joinFrom (lo hi : Nat) : List Run → List Nat
  | [] => [lo, hi]
  | r :: rest =>
    if r.1 ≤ hi then joinFrom lo (Nat.max hi r.2) rest else lo :: hi :: joinFrom r.1 r.2 rest

def joined (runs : List Run) : List Nat :=
  match runs.mergeSort (fun a b => a.1 ≤ b.1) with
  | [] => []
  | r :: rest => joinFrom r.1 r.2 rest

def alone (n : Nat) : Run := (n, n + 1)

def ascending (ns : List Nat) : List Nat := joined (ns.map alone)

def meet (f : Bool → Bool → Bool) (a b : List Run) : List Run :=
  runsOf (combine f false false (joined a) (joined b))

def members (runs : List Run) : List Nat :=
  runs.flatMap fun r => (List.range (r.2 - r.1)).map (r.1 + ·)

/- Surrogates are no characters. -/
def allRuns : List Run := [(0, 0xd800), (0xe000, 0x110000)]

/- The letters that fold to the same one, for each one that something folds to. -/
def variantClasses (rows : List FoldRow) : List (List Nat) :=
  rows.flatMap fun r =>
    (List.range r.count).map fun i => caseVariants rows (r.target + i * r.step)

def foldClasses : List (List Nat) := variantClasses foldRows

def missingVariants (borders : List Nat) : List Nat :=
  let set : Ranges := ⟨borders.toArray⟩
  foldClasses.flatMap fun variants =>
    if variants.any set.contains then variants.filter (!set.contains ·) else []

def foldedRuns (runs : List Run) : List Run :=
  match joined runs with
  | [lo, hi] =>
    if hi = lo + 1 then (lo :: caseVariants foldRows lo).map alone
    else (lo, hi) :: (missingVariants [lo, hi]).map alone
  | borders => runsOf borders ++ (missingVariants borders).map alone

end Unicode

namespace CharSet
open Unicode

def runsOnto : CharSet → List Run → List Run
  | empty, rest => rest
  | range lo hi, rest =>
    if lo ≤ hi then meet and [(lo.toNat, hi.toNat + 1)] allRuns ++ rest else rest
  | table runs, rest => runsOf runs.borders.toList ++ rest
  | union a b, rest => a.runsOnto (b.runsOnto rest)
  | inter a b, rest => meet and (a.runsOnto []) (b.runsOnto []) ++ rest
  | diff a b, rest => meet (fun x y => x && !y) (a.runsOnto []) (b.runsOnto []) ++ rest
  | symmDiff a b, rest => meet xor (a.runsOnto []) (b.runsOnto []) ++ rest
  | compl a, rest => meet (fun x y => x && !y) allRuns (a.runsOnto []) ++ rest
  | foldAscii a, rest =>
    let runs := a.runsOnto []
    let letters := (members (meet and runs [(65, 91), (97, 123)])).flatMap fun n =>
      [alone (Char.ofNat n).toLower.toNat, alone (Char.ofNat n).toUpper.toNat]
    letters ++ (runs ++ rest)
  | foldUnicode a, rest => foldedRuns (a.runsOnto []) ++ rest

def borders : CharSet → List Nat
  | table runs => runs.borders.toList
  | s => joined (s.runsOnto [])

def pairs : List Nat → List (Nat × Nat)
  | lo :: hi :: rest => (lo, hi - 1) :: pairs rest
  | _ => []

def spans (s : CharSet) : List (Nat × Nat) := pairs s.borders

def written (s : CharSet) : CharSet := .table ⟨s.borders.toArray⟩

def parts : CharSet → Nat
  | empty => 0
  | range _ _ | table _ => 1
  | union a b | inter a b | diff a b | symmDiff a b => a.parts + b.parts
  | compl a | foldAscii a | foldUnicode a => a.parts

def compact (s : CharSet) : CharSet := if 16 < s.parts then s.written else s

end CharSet
end Signpost
