import Signpost.Regex.ClassReader

/-! Reading an expression. The reader holds the items of the innermost open group, the
branches finished before them, and a frame for each group that is still open around. -/
namespace Signpost.Regex

/- What is set aside while the inside of a group is read. -/
structure Frame where
  kind : GroupKind
  verbose : Bool
  branches : List Expr
  items : List Expr

/- Items and branches come last first. -/
structure Reader where
  verbose : Bool := false
  captures : Nat := 0
  names : List Chars := []
  branches : List Expr := []
  items : List Expr := []
  frames : List Frame := []

namespace Reader

def push (r : Reader) (e : Expr) : Reader := { r with items := e :: r.items }

def inside (r : Reader) : Expr := .choice (Expr.sequence r.items :: r.branches)

def nextBranch (r : Reader) : Reader :=
  { r with branches := Expr.sequence r.items :: r.branches, items := [] }

def openGroup (r : Reader) (kind : GroupKind) (verbose : Bool) : Reader :=
  { r with
    verbose
    branches := []
    items := []
    frames := ⟨kind, r.verbose, r.branches, r.items⟩ :: r.frames }

def openWith (r : Reader) : Opening → Except Fault Reader
  | .directive edit =>
    .ok { r.push (.flags edit) with verbose := (edit.state? .verbose).getD r.verbose }
  | .scope edit => .ok (r.openGroup (.scope edit) ((edit.state? .verbose).getD r.verbose))
  | .capture name =>
    let index := r.captures + 1
    let r := { r with captures := index }
    match name with
    | none => .ok (r.openGroup (.capture index) r.verbose)
    | some name =>
      if r.names.contains name then .error .duplicateGroupName
      else .ok ({ r with names := name :: r.names }.openGroup (.capture index) r.verbose)

def closeGroup (r : Reader) : Except Fault Reader :=
  match r.frames with
  | [] => .error .unopenedGroup
  | f :: frames =>
    .ok { r with
      verbose := f.verbose
      branches := f.branches
      items := .group f.kind r.inside :: f.items
      frames }

def repeatLast (r : Reader) (min : Nat) (max : Option Nat) (greedy : Bool) :
    Except Fault Reader :=
  match r.items with
  | last :: before =>
    if last.repeatable then .ok { r with items := .times min max greedy last :: before }
    else .error .nothingToRepeat
  | [] => .error .nothingToRepeat

def readGreed (cs : Chars) : Bool × Chars :=
  match cs with
  | '?' :: rest => (false, rest)
  | _ => (true, cs)

def repeatOp (r : Reader) (min : Nat) (max : Option Nat) (cs : Chars) :
    Except Fault (Reader × Chars) := do
  let (greedy, rest) := readGreed cs
  let r ← r.repeatLast min max greedy
  .ok (r, rest)

def read (r : Reader) (c : Char) (cs : Chars) : Except Fault (Reader × Chars) :=
  match c with
  | '(' => do
    let (opening, rest) ← readOpening r.verbose cs
    let r ← r.openWith opening
    .ok (r, rest)
  | ')' => do
    let r ← r.closeGroup
    .ok (r, cs)
  | '|' => .ok (r.nextBranch, cs)
  | '[' => do
    let (e, rest) ← readClass r.verbose cs
    .ok (r.push e, rest)
  | '?' => r.repeatOp 0 (some 1) cs
  | '*' => r.repeatOp 0 none cs
  | '+' => r.repeatOp 1 none cs
  | '{' => do
    let ((min, max), rest) ← readBounds r.verbose cs
    r.repeatOp min max (skip r.verbose rest)
  | '\\' => do
    let (e, rest) ← readEscape r.verbose cs
    .ok (r.push e, rest)
  | '.' => .ok (r.push .dot, cs)
  | '^' => .ok (r.push (.anchor .lineStart), cs)
  | '$' => .ok (r.push (.anchor .lineEnd), cs)
  | c => .ok (r.push (.literal ⟨c, false⟩), cs)

def finish (r : Reader) : Except Fault Expr :=
  if r.frames.isEmpty then .ok r.inside else .error .unclosedGroup

/- Reads to the end of the text. Every construct takes at least one character. -/
def readAll (r : Reader) : Nat → Chars → Except Fault Reader
  | 0, _ => .ok r
  | fuel + 1, cs =>
    match skip r.verbose cs with
    | [] => .ok r
    | c :: rest => do
      let (r, rest) ← r.read c rest
      r.readAll fuel rest

end Reader

def depthLimit : Nat := 250

def Expr.read (text : Chars) : Except Fault Expr := do
  let r ← ({} : Reader).readAll text.length text
  let e ← r.finish
  if depthLimit < e.depth then .error .tooDeep else .ok e

end Signpost.Regex
