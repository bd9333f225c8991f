import Signpost.Unicode.Additions

/-! How values are shown in one line: text in quotes, lists in brackets, sets in braces and
records with the names of their fields. -/
namespace Signpost.Text

def hexDigits (n : Nat) : List Char := Nat.toDigits 16 n

def isPlain (c : Char) : Bool :=
  if c.val < 128 then ' ' ≤ c && c ≤ '~' else Unicode.plain.contains c

def quotedChar (c : Char) : List Char :=
  match c with
  | '\x00' => ['\\', '0']
  | '\t' => ['\\', 't']
  | '\n' => ['\\', 'n']
  | '\r' => ['\\', 'r']
  | '"' => ['\\', '"']
  | '\\' => ['\\', '\\']
  | c => if isPlain c then [c] else '\\' :: 'u' :: '\x7b' :: (hexDigits c.toNat ++ ['\x7d'])

def quoted (s : String) : String :=
  String.ofList ('"' :: (s.toList.flatMap quotedChar ++ ['"']))

def joined (items : List String) : String := ", ".intercalate items

def shownList (items : List String) : String := "[" ++ joined items ++ "]"

def shownSet (items : List String) : String := "\x7b" ++ joined items ++ "\x7d"

def shownRecord (name : String) (fields : List (String × String)) : String :=
  name ++ " \x7b " ++ joined (fields.map fun f => f.1 ++ ": " ++ f.2) ++ " \x7d"

def shownOption : Option String → String
  | none => "None"
  | some s => "Some(" ++ s ++ ")"

def shownBool (b : Bool) : String := if b then "true" else "false"

end Signpost.Text
