import Signpost.Regex.Footprint
import Signpost.Regex.Reader
import Signpost.Regex.Search

/-! Compiled regular expressions. -/
namespace Signpost

structure Regex where
  source : String
  node : Regex.Node
  program : Array Regex.Inst
  program_eq : program = node.program.toArray
  deriving Repr

namespace Regex

def compile (source : String) : Except Fault Regex := do
  let e ← Expr.read source.toList
  let (node, _) ← e.node {}
  if node.fits then .ok { source, node, program := node.program.toArray, program_eq := rfl }
  else .error .tooLarge

/- The place of a match: its start and end, and the positions saved on the way. -/
def find? (r : Regex) (text : List Char) : Option Thread := search r.program text.toArray

def isMatch (r : Regex) (text : List Char) : Bool := (r.find? text).isSome

/- How many groups the expression has, the numbers of dropped ones included. -/
def groupCount (r : Regex) : Nat := r.node.lastGroup

def saved? (slots : Slots) (slot : Nat) : Option Nat :=
  (slots.find? (·.1 == slot)).map Prod.snd

def saves (slots : Slots) (count : Nat) : Array (Option Nat) :=
  slots.foldr (fun s table => table.setIfInBounds s.1 (some s.2)) (Array.replicate count none)

theorem savesSize (slots : Slots) (count : Nat) : (saves slots count).size = count := by
  induction slots with
  | nil => simp [saves]
  | cons s rest ih => simpa [saves] using ih

theorem savesGetD (slots : Slots) (count slot : Nat) (inside : slot < count) :
    (saves slots count).getD slot none = saved? slots slot := by
  induction slots with
  | nil => simp [saves, saved?, inside]
  | cons s rest ih =>
    have size := savesSize rest count
    simp only [saves] at ih size
    by_cases same : s.1 = slot
    · simp [saves, saved?, same, size, inside]
    · simpa [saves, saved?, same] using ih

/- The text of a group, empty for one that took no part in the match. -/
def groupText (text : List Char) (saves : Array (Option Nat)) (index : Nat) : List Char :=
  match saves.getD (2 * index) none, saves.getD (2 * index + 1) none with
  | some lo, some hi => (text.drop lo).take (hi - lo)
  | _, _ => []

end Regex
end Signpost
