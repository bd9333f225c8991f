import Signpost.Regex.Tally

/-! The states for a choice between literals only, which are laid out as a tree of their
bytes. -/
namespace Signpost.Regex

/- The ways on from a place, latest first. A literal that ends between two ways parts them. -/
inductive LiteralTree
  | leaf
  | stop (older : LiteralTree)
  | edge (byte : UInt8) (child older : LiteralTree)
  deriving Repr

namespace LiteralTree

def hasEdge : LiteralTree → Bool
  | leaf => false
  | stop older => older.hasEdge
  | edge _ _ _ => true

def stopHere : LiteralTree → LiteralTree
  | stop leaf => stop leaf
  | t => stop t

/- Whether a way on is found before the last literal that ends here. -/
def leads (byte : UInt8) : LiteralTree → Bool
  | leaf | stop _ => false
  | edge b _ older => b == byte || older.leads byte

def along (byte : UInt8) (f : LiteralTree → LiteralTree) : LiteralTree → LiteralTree
  | edge b child older =>
    if b == byte then edge b (f child) older else edge b child (older.along byte f)
  | t => t

def insert : List UInt8 → LiteralTree → LiteralTree
  | [], t => t.stopHere
  | b :: bs, t => if t.leads b then t.along b (insert bs) else edge b (insert bs leaf) t

def closeRun (run : Nat) (t : Tally) : Tally :=
  match run with
  | 0 => t
  | 1 => (t.state 0).waysOut 1
  | run => (t.state run).waysOut 1

/- `run` is how many ways have been passed since the last literal that ends here. -/
def layOut : LiteralTree → Nat → Tally → Tally
  | leaf, run, t => (closeRun run t).state 0
  | stop older, run, t => older.layOut 0 ((closeRun run t).waysOut 1)
  | edge _ child older, run, t =>
    older.layOut (run + 1) (if child.hasEdge then child.layOut 0 t else t)

end LiteralTree
end Signpost.Regex
