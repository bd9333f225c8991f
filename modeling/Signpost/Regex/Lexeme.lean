import Signpost.Regex.Expr
import Signpost.Regex.Fault
import Signpost.Text.Fields
import Signpost.Unicode.Additions

/-! The small readers below constructs: each takes the text that is left and returns what
it read with the rest. `verbose` is the mode in which blanks and comments stand for nothing
between the characters of a construct. -/
namespace Signpost.Regex
open Unicode (isBlank)

abbrev Chars := List Char

def dropBlanks (inComment : Bool) : Chars → Chars
  | [] => []
  | c :: cs =>
    if inComment then dropBlanks (c != '\n') cs
    else if isBlank c then dropBlanks false cs
    else if c == '#' then dropBlanks true cs
    else c :: cs

def skip (verbose : Bool) (cs : Chars) : Chars := if verbose then dropBlanks false cs else cs

theorem skipPlain (cs : Chars) : skip false cs = cs := rfl

def readWhile (verbose : Bool) (p : Char → Bool) (inComment : Bool) : Chars → Chars × Chars
  | [] => ([], [])
  | c :: cs =>
    if inComment then readWhile verbose p (c != '\n') cs
    else if p c then
      let (read, rest) := readWhile verbose p false cs
      (c :: read, rest)
    else if verbose && isBlank c then readWhile verbose p false cs
    else if verbose && c == '#' then readWhile verbose p true cs
    else ([], c :: cs)

def readBraced (verbose : Bool) (inComment : Bool) : Chars → Option (Chars × Chars)
  | [] => none
  | c :: cs =>
    if inComment then readBraced verbose (c != '\n') cs
    else if c == '}' then some ([], cs)
    else if verbose && isBlank c then readBraced verbose false cs
    else if verbose && c == '#' then readBraced verbose true cs
    else (readBraced verbose false cs).map fun (read, rest) => (c :: read, rest)

def digitValue? (c : Char) : Option Nat :=
  if '0' ≤ c && c ≤ '9' then some (c.toNat - '0'.toNat)
  else if 'a' ≤ c && c ≤ 'f' then some (c.toNat - 'a'.toNat + 10)
  else if 'A' ≤ c && c ≤ 'F' then some (c.toNat - 'A'.toNat + 10)
  else none

def isDecimal (c : Char) : Bool := '0' ≤ c && c ≤ '9'

def isHex (c : Char) : Bool := (digitValue? c).isSome

def number (base : Nat) (digits : Chars) : Nat :=
  digits.foldl (fun n c => n * base + (digitValue? c).getD 0) 0

def codePoint (digits : Chars) : Except Fault Char :=
  let n := number 16 digits
  if digits.isEmpty then .error .badCodePoint
  else if n.isValidChar then .ok (Char.ofNat n)
  else .error .badCodePoint

def readHexDigits (verbose : Bool) : Nat → Chars → Except Fault (Chars × Chars)
  | 0, cs => .ok ([], cs)
  | n + 1, cs =>
    match skip verbose cs with
    | [] => .error .unfinishedEscape
    | c :: rest =>
      if isHex c then do
        let (read, rest) ← readHexDigits verbose n rest
        .ok (c :: read, rest)
      else .error .badCodePoint

def readCodePoint (verbose : Bool) (width : Nat) (cs : Chars) : Except Fault (Literal × Chars) :=
  match skip verbose cs with
  | '{' :: rest =>
    match readBraced verbose false rest with
    | none => .error .unfinishedEscape
    | some (digits, rest) => do
      if digits.all isHex then
        let c ← codePoint digits
        .ok (⟨c, false⟩, rest)
      else .error .badCodePoint
  | cs => do
    let (digits, rest) ← readHexDigits verbose width cs
    let c ← codePoint digits
    .ok (⟨c, width == 2⟩, rest)

/- The signs between a name and a value, those tried first in front, and whether they
negate. -/
def valueSigns : List (Chars × Bool) := [(['!', '='], true), ([':'], false), (['='], false)]

def propertyQuery (text : Chars) : PropertyQuery × Bool :=
  let valued (sign : Chars × Bool) : Option (PropertyQuery × Bool) :=
    (Text.splitAtFirst sign.1 text).map fun (key, value) => (.valued key value, sign.2)
  (valueSigns.findSome? valued).getD (.named text, false)

def readProperty (verbose negated : Bool) (cs : Chars) : Except Fault (Expr × Chars) :=
  match skip verbose cs with
  | [] => .error .unfinishedEscape
  | '{' :: rest =>
    match readBraced verbose false rest with
    | none => .error .unfinishedEscape
    | some (text, rest) =>
      let (query, flipped) := propertyQuery text
      .ok (.property query (negated != flipped), rest)
  | c :: rest =>
    if c == '\\' then .error .unknownProperty else .ok (.property (.named [c]) negated, rest)

def boundaryName? (name : Chars) : Option Anchor :=
  match String.ofList name with
  | "start" => some .wordStart
  | "end" => some .wordEnd
  | "start-half" => some .wordStartHalf
  | "end-half" => some .wordEndHalf
  | _ => none

def isBoundaryChar (c : Char) : Bool := c.isAlpha || c == '-'

/- A word boundary, with its kind in braces if a name follows. Other braces are left for a
counted repetition. -/
def readBoundary (verbose : Bool) (cs : Chars) : Except Fault (Expr × Chars) :=
  match cs with
  | '{' :: rest =>
    match skip verbose rest with
    | [] => .error .unfinishedEscape
    | c :: more =>
      if isBoundaryChar c then
        match readWhile verbose isBoundaryChar false (c :: more) with
        | (name, '}' :: rest) =>
          match boundaryName? name with
          | some a => .ok (.anchor a, rest)
          | none => .error .unknownBoundary
        | _ => .error .unknownBoundary
      else .ok (.anchor .boundary, cs)
  | _ => .ok (.anchor .boundary, cs)

/- Letters and digits are kept for escapes with a meaning; only ASCII is escaped at all. -/
def isEscapable (c : Char) : Bool := c.val < 128 && !c.isAlphanum

def readEscape (verbose : Bool) : Chars → Except Fault (Expr × Chars)
  | [] => .error .unfinishedEscape
  | c :: cs =>
    match c with
    | 'x' => do
      let (l, rest) ← readCodePoint verbose 2 cs
      .ok (.literal l, rest)
    | 'u' => do
      let (l, rest) ← readCodePoint verbose 4 cs
      .ok (.literal l, rest)
    | 'U' => do
      let (l, rest) ← readCodePoint verbose 8 cs
      .ok (.literal l, rest)
    | 'p' => readProperty verbose false cs
    | 'P' => readProperty verbose true cs
    | 'd' => .ok (.shorthand .digit false, cs)
    | 'D' => .ok (.shorthand .digit true, cs)
    | 's' => .ok (.shorthand .space false, cs)
    | 'S' => .ok (.shorthand .space true, cs)
    | 'w' => .ok (.shorthand .word false, cs)
    | 'W' => .ok (.shorthand .word true, cs)
    | 'a' => .ok (.literal ⟨'\x07', false⟩, cs)
    | 'f' => .ok (.literal ⟨'\x0c', false⟩, cs)
    | 't' => .ok (.literal ⟨'\t', false⟩, cs)
    | 'n' => .ok (.literal ⟨'\n', false⟩, cs)
    | 'r' => .ok (.literal ⟨'\r', false⟩, cs)
    | 'v' => .ok (.literal ⟨'\x0b', false⟩, cs)
    | 'A' => .ok (.anchor .textStart, cs)
    | 'z' => .ok (.anchor .textEnd, cs)
    | 'b' => readBoundary verbose cs
    | 'B' => .ok (.anchor .notBoundary, cs)
    | '<' => .ok (.anchor .wordStart, cs)
    | '>' => .ok (.anchor .wordEnd, cs)
    | c =>
      if isDecimal c then .error .backReference
      else if isEscapable c then .ok (.literal ⟨c, false⟩, cs)
      else .error .unknownEscape

def flagOf? : Char → Option Flag
  | 'i' => some .ignoreCase
  | 'm' => some .multiLine
  | 's' => some .dotAll
  | 'U' => some .swapGreed
  | 'u' => some .unicode
  | 'R' => some .crlf
  | 'x' => some .verbose
  | _ => none

inductive Opening
  | directive (edit : FlagEdit)
  | scope (edit : FlagEdit)
  | capture (name : Option Chars)
  deriving DecidableEq, Repr

/- Flags up to the colon or parenthesis that ends them. A minus sign clears those behind it
and must have one. -/
def readFlags (edit : FlagEdit) (clearing dangling : Bool) : Chars → Except Fault (Opening × Chars)
  | [] => .error .unclosedGroup
  | c :: cs =>
    if c == ':' then
      if dangling then .error .badFlags else .ok (.scope edit, cs)
    else if c == ')' then
      if dangling then .error .badFlags
      else if edit.isEmpty then .error .nothingToRepeat
      else .ok (.directive edit, cs)
    else if c == '-' then
      if clearing then .error .badFlags else readFlags edit true true cs
    else
      match flagOf? c with
      | none => .error .badFlags
      | some f =>
        if (edit.state? f).isSome then .error .badFlags
        else readFlags (edit ++ [(f, !clearing)]) clearing false cs

def isNameChar (first : Bool) (c : Char) : Bool :=
  c == '_' || Unicode.nameLetter.contains c ||
    (!first && (c == '.' || c == '[' || c == ']' || Unicode.nameNumber.contains c))

def readName (cs : Chars) : Except Fault (Opening × Chars) :=
  match cs.takeWhile (· != '>'), cs.dropWhile (· != '>') with
  | c :: name, _ :: rest =>
    if isNameChar true c && name.all (isNameChar false) then .ok (.capture (some (c :: name)), rest)
    else .error .badGroupName
  | _, _ => .error .badGroupName

def readOpening (verbose : Bool) (cs : Chars) : Except Fault (Opening × Chars) :=
  match skip verbose cs with
  | '?' :: '=' :: _ | '?' :: '!' :: _ | '?' :: '<' :: '=' :: _ | '?' :: '<' :: '!' :: _ =>
    .error .lookAround
  | '?' :: 'P' :: '<' :: rest => readName rest
  | '?' :: '<' :: rest => readName rest
  | '?' :: rest => readFlags [] false false rest
  | rest => .ok (.capture none, rest)

/- Repetition counts fit in 32 bits. -/
def countLimit : Nat := 4294967295

/- A decimal number with blanks around it; `none` stands for no digits at all. -/
def readDecimal (verbose : Bool) (cs : Chars) : Except Fault (Option Nat × Chars) :=
  let (digits, rest) := readWhile verbose isDecimal false ((skip verbose cs).dropWhile isBlank)
  let n := number 10 digits
  if countLimit < n then .error .badCount
  else .ok (if digits.isEmpty then none else some n, rest.dropWhile isBlank)

def readBounds (verbose : Bool) (cs : Chars) : Except Fault ((Nat × Option Nat) × Chars) := do
  match ← readDecimal verbose cs with
  | (some min, '}' :: rest) => .ok ((min, some min), rest)
  | (some min, ',' :: rest) =>
    match skip verbose rest with
    | '}' :: rest => .ok ((min, none), rest)
    | rest =>
      match ← readDecimal verbose rest with
      | (some max, '}' :: rest) =>
        if min ≤ max then .ok ((min, some max), rest) else .error .reversedCount
      | _ => .error .badCount
  | _ => .error .badCount

end Signpost.Regex
