import Signpost.Regex.LiteralTree
import Signpost.Regex.SetStates
import Signpost.Regex.Shape

/-! How much memory an expression takes. Two automata over bytes are laid out for it, one
that reads forward and one that reads backward, and neither may exceed ten mebibytes. Only
their sizes are worked out here. -/
namespace Signpost
namespace Regex
namespace Shape

def isLiteral : Shape → Bool
  | literal _ => true
  | _ => false

def utf8 (text : List Char) : List UInt8 := text.flatMap String.utf8EncodeChar

def literalBytes (d : Direction) : Shape → List UInt8
  | literal text => match d with
    | .forward => utf8 text
    | .backward => (utf8 text).reverse
  | _ => []

def literalLayout (d : Direction) (branches : List Shape) : Layout :=
  let tree := branches.foldl (fun tree b => tree.insert (b.literalBytes d)) LiteralTree.leaf
  ⟨fun t => tree.layOut 0 (t.state 0), 0⟩

/- Rounds without end. Where a round may match the empty text, leaving at once has a way of
its own. -/
def endlessLayout (min : Nat) (a : Layout) (takesSome : Bool) : Layout :=
  if min == 0 then
    if takesSome then ⟨fun t => (a.joined (t.state 0)).waysOut 1, 1⟩
    else ⟨fun t => ((((a.joined t).state 0).state 0).state 0).waysOut 4, 0⟩
  else ⟨fun t => ((t.times a.joined min).state 0).waysOut 1, 1⟩

def countedLayout (min max : Nat) (a : Layout) : Layout :=
  let required (t : Tally) : Tally :=
    if min == 0 then t.state 0
    else (a.lay t).times (fun t => a.lay (t.waysOut a.joins)) (min - 1)
  let optional (t : Tally) : Tally := (a.lay (t.state 0)).waysOut (2 + a.joins)
  if min == max then ⟨required, a.joins⟩
  else if min == 0 && max == 1 then
    ⟨fun t => ((a.lay (t.state 0)).state 0).waysOut (2 + a.joins), 0⟩
  else
    ⟨fun t => (((required t).state 0).waysOut (if min == 0 then 0 else a.joins)).times optional
      (max - min), 0⟩

mutual

/- The layout of a shape, which going backward is the reversed one. Groups take up nothing
there. -/
def layout (d : Direction) : Shape → Layout
  | empty | look _ => ⟨fun t => t.state 0, 0⟩
  | literal text => ⟨fun t => (utf8 text).foldl (fun t _ => t.state 0) t, 0⟩
  | set borders => setLayout d borders
  | repeated min none _ a => endlessLayout min (a.layout d) a.takesSome
  | repeated min (some max) _ a => countedLayout min max (a.layout d)
  | group _ a =>
    let inside := a.layout d
    match d with
    | .forward => ⟨fun t => (inside.joined (t.state 0)).state 0, 0⟩
    | .backward => inside
  | seq ps => .sequence (layouts d ps)
  | alt bs => if bs.all isLiteral then literalLayout d bs else .choice (layouts d bs)

def layouts (d : Direction) : List Shape → List Layout
  | [] => []
  | a :: rest => a.layout d :: layouts d rest

end

/- The automaton for a shape that is already turned into the direction. In front stands a
loop over any bytes, unless matches can only begin at the end of the text. -/
def tally (d : Direction) (a : Shape) : Tally :=
  let anchor := match d with
    | .forward => Look.textStart
    | .backward => Look.textEnd
  let front : Tally :=
    if a.begins anchor then Tally.state {} 0
    else (((Tally.state {} 0).state 0).state 1).waysOut 2
  match d with
  | .forward => (((group 0 a).layout d).lay front).state 0
  | .backward => let l := a.layout d; ((l.lay front).state 0).waysOut l.joins

end Shape
end Regex

/-! Most expressions are so small that a bound decides: a rough one from the form of the
sets, or else a finer one from their byte sequences, none of whose states is shared. -/

namespace CharSet

def isAscii : CharSet → Bool
  | empty => true
  | range _ hi => hi.val < 128
  | union a b | symmDiff a b => a.isAscii && b.isAscii
  | inter a b => a.isAscii || b.isAscii
  | diff a _ | foldAscii a => a.isAscii
  | table runs => runs.borders.all (· ≤ 128)
  | _ => false

def spanBound : CharSet → Nat
  | empty => 0
  | range _ _ => 2
  | table runs => runs.borders.size
  | union a b | inter a b | diff a b | symmDiff a b => a.spanBound + b.spanBound + 2
  | compl a => a.spanBound + 3
  | foldAscii a => a.spanBound + 52
  | foldUnicode a => a.spanBound + 4000

/- At least the size of both automata for a set. A span makes twenty-one sequences of four
states at most. -/
def roughBytes (s : CharSet) : Nat :=
  match s with
  | range lo hi => if lo == hi then 512 else if hi.val < 128 then 128 else 8192
  | s => 128 + s.spanBound * (if s.isAscii then 8 else 4096)

def sequenceBytes (s : CharSet) : Nat :=
  (s.spans.flatMap Unicode.Utf8.sequences).foldl (fun n ranges => n + 40 * ranges.length) 128

end CharSet

namespace Regex.Node

/- At least the size of either automaton and `n` more, with a bound for sets. No more sets
are looked at once the limit is exceeded. -/
def byteBound (set : CharSet → Nat) : Node → Nat → Nat
  | empty, n | look _, n => n + 64
  | .set s, n => if byteLimit < n then n else n + set s
  | seq a b, n => b.byteBound set (a.byteBound set n)
  | alt a b, n => b.byteBound set (a.byteBound set (n + 128))
  | group _ a, n => a.byteBound set (n + 128)
  | repeated min max _ a, n =>
    n + Nat.max (min + 1) (max.getD 1) * (a.byteBound set 0 + 64) + 256

def isBoundedBy (set : CharSet → Nat) (a : Node) : Bool := a.byteBound set 256 ≤ byteLimit

def fits (a : Node) : Bool :=
  a.isBoundedBy CharSet.roughBytes || a.isBoundedBy CharSet.sequenceBytes ||
    ((a.shape.tally .forward).bytes ≤ byteLimit &&
      (a.shape.reversed.tally .backward).bytes ≤ byteLimit)

end Regex.Node
end Signpost
