/-! Text cut out by offsets in bytes. A cut is refused if it is out of bounds or out of order, or
if it would divide a character, and a computation ends at the first cut that is refused. -/
namespace Signpost.Text

def byteSize (text : List Char) : Nat := (String.ofList text).utf8ByteSize

/- The offset of the first `mark`. -/
def offsetOf? (mark : Char) (text : List Char) : Option Nat :=
  ((String.ofList text).find? mark).map fun place => place.offset.byteIdx

/- The bytes from `start` up to `stop`. -/
structure Cut where
  text : List Char
  start : Nat
  stop : Nat
  deriving DecidableEq, Repr

namespace Cut

structure IsSafe (cut : Cut) : Prop where
  ordered : cut.start ≤ cut.stop
  inside : cut.stop ≤ byteSize cut.text
  starts : String.Pos.Raw.IsValid (String.ofList cut.text) ⟨cut.start⟩
  stops : String.Pos.Raw.IsValid (String.ofList cut.text) ⟨cut.stop⟩

def taken? (cut : Cut) : Option (List Char) :=
  let text := String.ofList cut.text
  match text.pos? ⟨cut.start⟩, text.pos? ⟨cut.stop⟩ with
  | some start, some stop =>
    if start ≤ stop then some (text.extract start stop).toList else none
  | _, _ => none

end Cut

/- A computation with the cuts that it asks for. It has no result if one is refused. -/
structure Cutting (α : Type) where
  cuts : List Cut
  result? : Option α

namespace Cutting
variable {α β : Type}

def done (a : α) : Cutting α := ⟨[], some a⟩

def andThen (first : Cutting α) (next : α → Cutting β) : Cutting β :=
  match first.result? with
  | some a => ⟨first.cuts ++ (next a).cuts, (next a).result?⟩
  | none => ⟨first.cuts, none⟩

instance : Monad Cutting where
  pure := done
  bind := andThen

def slice (text : List Char) (start stop : Nat) : Cutting (List Char) :=
  let cut : Cut := ⟨text, start, stop⟩
  ⟨[cut], cut.taken?⟩

/- An offset is not taken below zero. -/
def minus (n k : Nat) : Cutting Nat := ⟨[], if k ≤ n then some (n - k) else none⟩

end Cutting
end Signpost.Text
