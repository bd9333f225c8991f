import Signpost.Regex.Node

/-! Nodes as programs. The code of a node runs off its end; a fork names its preferred way
first. -/
namespace Signpost.Regex

inductive Inst
  | set (s : CharSet)
  | look (l : Look)
  | save (slot : Nat)
  | fork (first second : Nat)
  | jump (target : Nat)
  | accept
  deriving Repr

def copies (n size : Nat) (code : Nat → List Inst) (start : Nat) : List Inst :=
  (List.range n).flatMap fun i => code (start + i * size)

theorem copiesLength (n size : Nat) (code : Nat → List Inst) (start : Nat)
    (same : ∀ place, (code place).length = size) : (copies n size code start).length = n * size := by
  simp only [copies, List.length_flatMap, same, List.map_const', List.length_range,
    List.sum_replicate_nat]

namespace Node

/- A round that may be left out takes up one instruction more. Without a greatest number
the last required round, or else the only one, is followed by the way back to it. -/
def size : Node → Nat
  | empty => 0
  | set _ | look _ => 1
  | seq a b => a.size + b.size
  | alt a b => a.size + b.size + 2
  | group none a => a.size
  | group (some _) a => a.size + 2
  | repeated min (some max) _ a => min * a.size + (max - min) * (a.size + 1)
  | repeated 0 none _ a => a.size + 2
  | repeated (min + 1) none _ a => (min + 1) * a.size + 1

def preferred (greedy : Bool) (stay leave : Nat) : Inst :=
  if greedy then .fork stay leave else .fork leave stay

/- The code of a node between two places, which are as far apart as the node has size. -/
def code : Node → (start stop : Nat) → List Inst
  | empty, _, _ => []
  | set s, _, _ => [.set s]
  | look l, _, _ => [.look l]
  | seq a b, start, stop =>
    let middle := start + a.size
    a.code start middle ++ b.code middle stop
  | alt a b, start, stop =>
    let middle := start + a.size + 1
    .fork (start + 1) (middle + 1) ::
      (a.code (start + 1) middle ++ .jump stop :: b.code (middle + 1) stop)
  | group none a, start, stop => a.code start stop
  | group (some index) a, start, stop =>
    .save (2 * index) :: (a.code (start + 1) (stop - 1) ++ [.save (2 * index + 1)])
  | repeated min (some max) greedy a, start, stop =>
    let size := a.size
    copies min size (fun place => a.code place (place + size)) start ++
      copies (max - min) (size + 1)
        (fun place => preferred greedy (place + 1) stop :: a.code (place + 1) (place + 1 + size))
        (start + min * size)
  | repeated 0 none greedy a, start, stop =>
    preferred greedy (start + 1) stop ::
      (a.code (start + 1) (stop - 1) ++ [preferred greedy (start + 1) stop])
  | repeated (min + 1) none greedy a, start, stop =>
    let size := a.size
    copies (min + 1) size (fun place => a.code place (place + size)) start ++
      [preferred greedy (start + min * size) stop]

theorem codeLength (a : Node) (start stop : Nat) : (a.code start stop).length = a.size := by
  induction a generalizing start stop with
  | empty => rfl
  | set s => rfl
  | look l => rfl
  | seq a b iha ihb => simp [code, size, iha, ihb]
  | alt a b iha ihb => simp [code, size, iha, ihb]; omega
  | group index a ih => cases index <;> simp [code, size, ih]
  | repeated min max greedy a ih =>
    cases max with
    | some max =>
      simp only [code, size, List.length_append]
      rw [copiesLength _ _ _ _ fun place => ih _ _, copiesLength]
      intro place
      simp [ih]
    | none =>
      cases min with
      | zero => simp [code, size, ih]
      | succ min =>
        simp only [code, size, List.length_append]
        rw [copiesLength _ _ _ _ fun place => ih _ _]
        rfl

def program (a : Node) : List Inst := a.code 0 a.size ++ [.accept]

end Node
end Signpost.Regex
