import Signpost.Regex.Program

/-! Running a program on a text. Threads wait on a stack, preferred ones on top, and no
place of the program is entered twice at one position: a second thread there could only
repeat what the first, preferred one has done. So a run takes time in proportion to the
product of both sizes, and its first acceptance is the preferred leftmost match. -/
namespace Signpost.Regex

def isWord (unicode : Bool) (c : Char) : Bool :=
  if unicode then Unicode.word.contains c else asciiWord.contains c

def before? (text : Array Char) (pos : Nat) : Option Char :=
  match pos with
  | 0 => none
  | pos + 1 => text[pos]?

def after? (text : Array Char) (pos : Nat) : Option Char := text[pos]?

def Look.holds (l : Look) (text : Array Char) (pos : Nat) : Bool :=
  let before := before? text pos
  let after := after? text pos
  let word (unicode : Bool) (c : Option Char) : Bool := c.any (isWord unicode)
  match l with
  | textStart => before.isNone
  | textEnd => after.isNone
  | lineStart => before.all (· == '\n')
  | lineEnd => after.all (· == '\n')
  | crlfStart =>
    before.all fun c => c == '\n' || (c == '\r' && after != some '\n')
  | crlfEnd =>
    after.all fun c => c == '\r' || (c == '\n' && before != some '\r')
  | boundary u => word u before != word u after
  | notBoundary u => word u before == word u after
  | wordStart u => !word u before && word u after
  | wordEnd u => word u before && !word u after
  | wordStartHalf u => !word u before
  | wordEndHalf u => !word u after

/- Slots and the positions saved in them, latest first. -/
abbrev Slots := List (Nat × Nat)

structure Thread where
  pc : Nat
  pos : Nat
  start : Nat
  slots : Slots
  deriving DecidableEq, Repr

/- Where a thread goes from an instruction, in order of preference. -/
def Inst.next (i : Inst) (text : Array Char) (t : Thread) : List Thread :=
  match i with
  | .set s =>
    match text[t.pos]? with
    | some c => if s.contains c then [{ t with pc := t.pc + 1, pos := t.pos + 1 }] else []
    | none => []
  | .look l => if l.holds text t.pos then [{ t with pc := t.pc + 1 }] else []
  | .save slot => [{ t with pc := t.pc + 1, slots := (slot, t.pos) :: t.slots }]
  | .fork first second => [{ t with pc := first }, { t with pc := second }]
  | .jump target => [{ t with pc := target }]
  | .accept => []

def cell (program : Array Inst) (t : Thread) : Nat := t.pos * program.size + t.pc

/- The cells that threads have entered, as masks of thirty-two cells. A bucket holds masks
with the numbers of their places. -/
structure Entered where
  buckets : Array (List (Nat × Nat))

namespace Entered

def maskAt (place : Nat) : List (Nat × Nat) → Nat
  | [] => 0
  | (p, mask) :: rest => if p = place then mask else maskAt place rest

def mark (place bit : Nat) : List (Nat × Nat) → List (Nat × Nat)
  | [] => [(place, 1 <<< bit)]
  | (p, mask) :: rest =>
    if p = place then (p, mask ||| 1 <<< bit) :: rest else (p, mask) :: mark place bit rest

/- A bucket for each mask, but no more than about a million. -/
def empty (cells : Nat) : Entered := ⟨Array.replicate (Nat.min (cells / 32 + 1) 1048576) []⟩

def contains (e : Entered) (cell : Nat) : Bool :=
  let place := cell / 32
  (maskAt place (e.buckets.getD (place % e.buckets.size) [])).testBit (cell % 32)

def insert (e : Entered) (cell : Nat) : Entered :=
  let place := cell / 32
  ⟨e.buckets.modify (place % e.buckets.size) (mark place (cell % 32))⟩

end Entered

def run (program : Array Inst) (text : Array Char) :
    Nat → Entered → List Thread → Option Thread
  | 0, _, _ => none
  | _ + 1, _, [] => none
  | fuel + 1, entered, t :: rest =>
    if entered.contains (cell program t) then run program text fuel entered rest
    else
      match program[t.pc]? with
      | some .accept => some t
      | some i => run program text fuel (entered.insert (cell program t)) (i.next text t ++ rest)
      | none => run program text fuel entered rest

/- Matches may start anywhere; an earlier start is preferred. -/
def starts (text : Array Char) : List Thread :=
  (List.range (text.size + 1)).map fun pos => ⟨0, pos, pos, []⟩

/- Each cell puts at most two threads on the stack, so the steps given are enough. -/
def search (program : Array Inst) (text : Array Char) : Option Thread :=
  let cells := program.size * (text.size + 1)
  run program text (2 * cells + text.size + 2) (.empty cells) (starts text)

end Signpost.Regex
