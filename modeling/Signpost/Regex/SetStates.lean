import Signpost.Regex.Tally
import Signpost.Unicode.Spans
import Signpost.Unicode.Utf8

/-! The states for a set of characters. Within one set, states that go the same ways are
shared as far as a table remembers them: each slot of the table holds the last state with
the hash of the slot. -/
namespace Signpost.Regex
open Unicode (Utf8.ByteRange Utf8.sequences)

structure Sharing where
  tally : Tally
  table : Array (Option (List Nat × Nat))

def slotHash (words : List Nat) : UInt64 :=
  words.foldl (fun h w => (h ^^^ w.toUInt64) * 1099511628211) 14695981039346656037

def Sharing.place (s : Sharing) (key : List Nat) (ranges : Nat) : Nat × Sharing :=
  let slot := (slotHash key % s.table.size.toUInt64).toNat
  match (s.table.getD slot none).filter (·.1 == key), s with
  | some (_, place), s => (place, s)
  | none, ⟨tally, table⟩ =>
    (tally.states, ⟨tally.state ranges, table.setIfInBounds slot (some (key, tally.states))⟩)

structure Edge where
  range : Utf8.ByteRange
  next : Nat

/- A state whose last way out does not lead anywhere yet. -/
structure Draft where
  edges : List Edge := []
  last : Option Utf8.ByteRange := none

def Draft.close (f : Draft) (next : Nat) : Draft :=
  match f.last with
  | none => f
  | some range => { edges := f.edges ++ [⟨range, next⟩] }

def Draft.key (f : Draft) : List Nat := f.edges.flatMap fun e => [e.range.1, e.range.2, e.next]

/- Closes the drafts behind the first `keep` and one more, deepest in front. -/
def closeDrafts (keep : Nat) : Nat → List Draft → Sharing → List Draft × Sharing
  | _, [], s => ([], s)
  | next, f :: rest, s =>
    let f := f.close next
    if keep < rest.length then
      let (place, s) := s.place f.key f.edges.length
      closeDrafts keep place rest s
    else (f :: rest, s)

def commonLength (drafts : List Draft) (ranges : List Utf8.ByteRange) : Nat :=
  ((drafts.zip ranges).takeWhile fun p => p.1.last == some p.2).length

def addSequence (target : Nat) (state : List Draft × Sharing) (ranges : List Utf8.ByteRange) :
    List Draft × Sharing :=
  let keep := commonLength state.1.reverse ranges
  match closeDrafts keep target state.1 state.2, ranges.drop keep with
  | (f :: rest, s), range :: more =>
    ((more.map fun r => { last := some r }).reverse ++ { f with last := some range } :: rest, s)
  | closed, _ => closed

def layForward (sequences : List (List Utf8.ByteRange)) (t : Tally) : Tally :=
  let target := t.states
  let start : Sharing := { tally := t.state 0, table := Array.replicate 10000 none }
  let (drafts, s) := sequences.foldl (addSequence target) ([{}], start)
  match closeDrafts 0 target drafts s with
  | (root :: _, s) => (s.place root.key root.edges.length).2.tally
  | ([], s) => s.tally

def layBackward (sequences : List (List Utf8.ByteRange)) (t : Tally) : Tally :=
  let target := t.states + 1
  let start : Sharing :=
    { tally := (t.state 0).state 0, table := Array.replicate 1000 none }
  let lay (s : Sharing) (ranges : List Utf8.ByteRange) : Sharing :=
    (ranges.foldl (fun (place, s) r => s.place [place, r.1, r.2] 0) (target, s)).2
  (sequences.foldl lay start).tally.waysOut sequences.length

/- The byte sequences of a set are found once, however often it is laid out. Nothing more
is laid out once the limit is exceeded. -/
def setLayout (d : Direction) (borders : List Nat) : Layout :=
  let spans := CharSet.pairs borders
  if spans.all (·.2 < 128) then ⟨fun t => (t.state 0).state spans.length, 0⟩
  else
    let sequences := Thunk.mk fun _ => spans.flatMap Utf8.sequences
    let lay := match d with
      | .forward => layForward
      | .backward => layBackward
    ⟨fun t => if byteLimit < t.bytes then t else lay sequences.get t, 0⟩

end Signpost.Regex
