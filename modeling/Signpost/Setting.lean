import Signpost.MethodSet

/-! Configuration values and how options are read from them. A record names its fields; a
list gives them in their order, and may leave off the last ones. -/
namespace Signpost

inductive Setting
  | null
  | bool (b : Bool)
  | number
  | text (s : String)
  | list (items : List Setting)
  | record (fields : List (String × Setting))
  deriving Inhabited

inductive SettingFault
  | shape
  | unsupported (e : UnsupportedMethod)
  deriving DecidableEq, Repr

namespace Setting

abbrev Read (α : Type) := Except SettingFault α

def asBool : Setting → Read Bool
  | bool b => .ok b
  | _ => .error .shape

def asText : Setting → Read String
  | text s => .ok s
  | _ => .error .shape

/- All items have to be texts before the first is parsed. -/
def asMethods : Setting → Read MethodSet
  | list items => do
    let texts ← items.mapM asText
    match MethodSet.parseAll texts with
    | .ok s => .ok s
    | .error e => .error (.unsupported e)
  | _ => .error .shape

def asOption {α : Type} (read : Setting → Read α) : Setting → Read (Option α)
  | null => .ok none
  | s => do .ok (some (← read s))

def field {α : Type} (read : Setting → Read α) (default : α) : Option Setting → Read α
  | none => .ok default
  | some s => read s

def get? (fields : List (String × Setting)) (name : String) : Option Setting :=
  (fields.find? (·.1 == name)).map Prod.snd

/- Reads two fields, in a record those first whose names come first in the alphabet. More
than two items of a list are too many. -/
def pair {α β : Type} (nameA nameB : String) (a : Option Setting → Read α)
    (b : Option Setting → Read β) : Setting → Read (α × β)
  | record fields =>
    let fieldA := a (get? fields nameA)
    let fieldB := b (get? fields nameB)
    if nameA < nameB then do .ok (← fieldA, ← fieldB)
    else do
      let y ← fieldB
      .ok (← fieldA, y)
  | list items => do
    let x ← a items[0]?
    let y ← b items[1]?
    if items.length ≤ 2 then .ok (x, y) else .error .shape
  | _ => .error .shape

end Setting
end Signpost
