import Signpost.Regex.Lexeme

/-! Bracketed classes. Brackets that are open form a stack of levels; closing the last one
ends the class. -/
namespace Signpost.Regex
open Unicode (isBlank)

def posixClass? (name : Chars) : Option PosixClass :=
  match String.ofList name with
  | "alnum" => some .alnum
  | "alpha" => some .alpha
  | "ascii" => some .ascii
  | "blank" => some .blank
  | "cntrl" => some .cntrl
  | "digit" => some .digit
  | "graph" => some .graph
  | "lower" => some .lower
  | "print" => some .print
  | "punct" => some .punct
  | "space" => some .space
  | "upper" => some .upper
  | "word" => some .word
  | "xdigit" => some .xdigit
  | _ => none

def readNegation (verbose : Bool) (cs : Chars) : Bool × Chars :=
  match skip verbose cs with
  | '^' :: rest => (true, skip verbose rest)
  | cs => (false, cs)

/- A named class, read behind its opening bracket. What does not have its form is left to
be read as a class of its own. -/
def readPosix? (cs : Chars) : Option (ClassExpr × Chars) :=
  match cs with
  | ':' :: cs =>
    let (negated, cs) := readNegation false cs
    match cs.dropWhile (· != ':') with
    | ':' :: ']' :: rest =>
      (posixClass? (cs.takeWhile (· != ':'))).map fun k => (.posix k negated, rest)
    | _ => none
  | _ => none

/- One open bracket: the operation that waits for its right side, and the items since. -/
structure ClassLevel where
  negated : Bool
  pending : Option (ClassOp × ClassExpr) := none
  items : Option ClassExpr := none

namespace ClassLevel

def add (l : ClassLevel) (x : ClassExpr) : ClassLevel :=
  { l with items := some (match l.items with
    | none => x
    | some before => .both before x) }

def body (l : ClassLevel) : ClassExpr :=
  let right := l.items.getD .empty
  match l.pending with
  | none => right
  | some (k, left) => .op k left right

def await (l : ClassLevel) (k : ClassOp) : ClassLevel :=
  { l with pending := some (k, l.body), items := none }

end ClassLevel

/- Hyphens right behind the opening stand for themselves. -/
def readHyphens (verbose : Bool) : Nat → ClassLevel → Chars → ClassLevel × Chars
  | 0, l, cs => (l, cs)
  | fuel + 1, l, cs =>
    match cs with
    | '-' :: rest => readHyphens verbose fuel (l.add (.literal ⟨'-', false⟩)) (skip verbose rest)
    | _ => (l, cs)

/- The start of a class behind its opening bracket. A closing bracket that would leave the
class empty stands for itself. -/
def openClass (verbose : Bool) (cs : Chars) : ClassLevel × Chars :=
  let (negated, cs) := readNegation verbose cs
  let (l, cs) := readHyphens verbose cs.length { negated } cs
  match l.items, cs with
  | none, ']' :: rest => (l.add (.literal ⟨']', false⟩), skip verbose rest)
  | _, _ => (l, cs)

/- The character that decides whether a hyphen makes a range: the next one, or in verbose
mode the next behind blanks and the sign that starts a comment. -/
def rangePeek (verbose : Bool) (cs : Chars) : Option Char :=
  if verbose then
    match cs.dropWhile isBlank with
    | '#' :: rest => (rest.dropWhile isBlank).head?.or cs.head?
    | rest => rest.head?.or cs.head?
  else cs.head?

def classItem? : Expr → Option ClassExpr
  | .literal l => some (.literal l)
  | .shorthand k negated => some (.shorthand k negated)
  | .property q negated => some (.property q negated)
  | _ => none

def readClassAtom (verbose : Bool) : Chars → Except Fault (Expr × Chars)
  | [] => .error .unclosedClass
  | '\\' :: rest => readEscape verbose rest
  | c :: rest => .ok (.literal ⟨c, false⟩, rest)

def readClassItem (verbose : Bool) (cs : Chars) : Except Fault (ClassExpr × Chars) := do
  let (first, rest) ← readClassAtom verbose cs
  let alone (rest : Chars) : Except Fault (ClassExpr × Chars) :=
    match classItem? first with
    | some item => .ok (item, rest)
    | none => .error .notInClass
  match skip verbose rest with
  | [] => .error .unclosedClass
  | '-' :: more =>
    if rangePeek verbose more == some ']' || rangePeek verbose more == some '-' then
      alone ('-' :: more)
    else
      let (last, rest) ← readClassAtom verbose (skip verbose more)
      match first, last with
      | .literal lo, .literal hi =>
        if lo.char ≤ hi.char then .ok (.range lo hi, rest) else .error .reversedRange
      | _, _ => .error .notInClass
  | rest => alone rest

def readClassBody (verbose : Bool) :
    Nat → ClassLevel → List ClassLevel → Chars → Except Fault ((Bool × ClassExpr) × Chars)
  | 0, _, _, _ => .error .unclosedClass
  | fuel + 1, l, outer, cs =>
    match skip verbose cs with
    | [] => .error .unclosedClass
    | '[' :: rest =>
      match readPosix? rest with
      | some (item, rest) => readClassBody verbose fuel (l.add item) outer rest
      | none =>
        let (inner, rest) := openClass verbose rest
        readClassBody verbose fuel inner (l :: outer) rest
    | ']' :: rest =>
      match outer with
      | [] => .ok ((l.negated, l.body), rest)
      | l' :: outer =>
        readClassBody verbose fuel (l'.add (.bracket l.negated l.body)) outer rest
    | '&' :: '&' :: rest => readClassBody verbose fuel (l.await .inter) outer rest
    | '-' :: '-' :: rest => readClassBody verbose fuel (l.await .diff) outer rest
    | '~' :: '~' :: rest => readClassBody verbose fuel (l.await .symmDiff) outer rest
    | c :: rest => do
      let (item, rest) ← readClassItem verbose (c :: rest)
      readClassBody verbose fuel (l.add item) outer rest

def readClass (verbose : Bool) (cs : Chars) : Except Fault (Expr × Chars) := do
  let (l, rest) := openClass verbose cs
  let ((negated, body), rest) ← readClassBody verbose (cs.length + 1) l [] rest
  .ok (.bracket negated body, rest)

end Signpost.Regex
