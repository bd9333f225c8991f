import Signpost.Regex.Expr
import Signpost.Regex.Fault
import Signpost.Unicode.Name
import Signpost.Unicode.Spans

/-! Expressions with their flags worked in. A node says which characters it takes, what it
looks at, what it captures and how often a part is repeated. -/
namespace Signpost.Regex

inductive Look
  | textStart | textEnd | lineStart | lineEnd | crlfStart | crlfEnd
  | boundary (unicode : Bool) | notBoundary (unicode : Bool)
  | wordStart (unicode : Bool) | wordEnd (unicode : Bool)
  | wordStartHalf (unicode : Bool) | wordEndHalf (unicode : Bool)
  deriving DecidableEq, Repr

/- Sequences and choices nest to the right. A group without an index saves nothing and
keeps its inside apart. A greedy repetition prefers more rounds. -/
inductive Node
  | empty
  | set (s : CharSet)
  | look (l : Look)
  | seq (a b : Node)
  | alt (a b : Node)
  | group (index : Option Nat) (a : Node)
  | repeated (min : Nat) (max : Option Nat) (greedy : Bool) (a : Node)
  deriving Repr

namespace Node

def onlyEmpty : Node → Bool
  | empty | look _ => true
  | set _ => false
  | seq a b | alt a b => a.onlyEmpty && b.onlyEmpty
  | group _ a | repeated _ _ _ a => a.onlyEmpty

/- What matches the empty text only is repeated once at most. No round at all leaves
nothing, groups inside included. -/
def times (min : Nat) (max : Option Nat) (greedy : Bool) (a : Node) : Node :=
  let min := if a.onlyEmpty then Nat.min min 1 else min
  let max := if a.onlyEmpty then some (Nat.min (max.getD 1) 1) else max
  if max == some 0 then empty
  else if min == 1 && max == some 1 then a
  else repeated min max greedy a

def lastGroup : Node → Nat
  | empty | set _ | look _ => 0
  | seq a b | alt a b => Nat.max a.lastGroup b.lastGroup
  | group index a => Nat.max (index.getD 0) a.lastGroup
  | repeated _ _ _ a => a.lastGroup

end Node

structure Flags where
  ignoreCase : Bool := false
  multiLine : Bool := false
  dotAll : Bool := false
  swapGreed : Bool := false
  unicode : Bool := true
  crlf : Bool := false
  deriving DecidableEq, Repr

namespace Flags

def set (f : Flags) : Flag × Bool → Flags
  | (.ignoreCase, b) => { f with ignoreCase := b }
  | (.multiLine, b) => { f with multiLine := b }
  | (.dotAll, b) => { f with dotAll := b }
  | (.swapGreed, b) => { f with swapGreed := b }
  | (.unicode, b) => { f with unicode := b }
  | (.crlf, b) => { f with crlf := b }
  | (.verbose, _) => f

def edit (f : Flags) (e : FlagEdit) : Flags := e.foldl set f

/- A folded set is written out, so that folding it again costs no more than the first time. -/
def fold (f : Flags) (s : CharSet) : CharSet :=
  if f.ignoreCase then (if f.unicode then CharSet.foldUnicode s else .foldAscii s).written else s

/- Where Unicode is off, the complement of a set of ASCII characters would hold bytes that
are not characters. -/
def complement (f : Flags) (negated : Bool) (s : CharSet) : Except Fault CharSet :=
  if negated then if f.unicode then .ok (.compl s) else .error .matchesBytes else .ok s

/- Where Unicode is off, a literal in a class has to be ASCII and a byte escape too. -/
def classLiteral (f : Flags) (l : Literal) : Except Fault Char :=
  if f.unicode || l.char.val < 128 then .ok l.char
  else if l.byte then .error .matchesBytes else .error .needsUnicode

def literal (f : Flags) (l : Literal) : Except Fault CharSet :=
  if f.unicode || l.char.val < 128 then .ok (f.fold (.single l.char))
  else if l.byte then .error .matchesBytes
  else .ok (.single l.char)

def dot (f : Flags) : Except Fault CharSet :=
  if !f.unicode then .error .matchesBytes
  else if f.dotAll then .ok (.compl .empty)
  else if f.crlf then .ok (.compl (.chars ['\r', '\n']))
  else .ok (.compl (.single '\n'))

def anchor (f : Flags) : Anchor → Look
  | .lineStart => if f.multiLine then if f.crlf then .crlfStart else .lineStart else .textStart
  | .lineEnd => if f.multiLine then if f.crlf then .crlfEnd else .lineEnd else .textEnd
  | .textStart => .textStart
  | .textEnd => .textEnd
  | .boundary => .boundary f.unicode
  | .notBoundary => .notBoundary f.unicode
  | .wordStart => .wordStart f.unicode
  | .wordEnd => .wordEnd f.unicode
  | .wordStartHalf => .wordStartHalf f.unicode
  | .wordEndHalf => .wordEndHalf f.unicode

end Flags

def asciiDigit : CharSet := .range '0' '9'

def asciiSpace : CharSet := .chars ['\t', '\n', '\x0b', '\x0c', '\r', ' ']

def asciiLetter : CharSet := .union (.range 'a' 'z') (.range 'A' 'Z')

def asciiWord : CharSet := .unionAll [asciiLetter, asciiDigit, .single '_']

def Shorthand.set (unicode : Bool) : Shorthand → CharSet
  | .digit => if unicode then Unicode.decimalDigit else asciiDigit
  | .space => if unicode then Unicode.whiteSpace else asciiSpace
  | .word => if unicode then Unicode.word.written else asciiWord

def PosixClass.set : PosixClass → CharSet
  | .alnum => .union asciiLetter asciiDigit
  | .alpha => asciiLetter
  | .ascii => .range '\x00' '\x7f'
  | .blank => .chars ['\t', ' ']
  | .cntrl => .union (.range '\x00' '\x1f') (.single '\x7f')
  | .digit => asciiDigit
  | .graph => .range '!' '~'
  | .lower => .range 'a' 'z'
  | .print => .range ' ' '~'
  | .punct => .unionAll [.range '!' '/', .range ':' '@', .range '[' '\x60', .range '\x7b' '~']
  | .space => asciiSpace
  | .upper => .range 'A' 'Z'
  | .word => asciiWord
  | .xdigit => .unionAll [asciiDigit, .range 'a' 'f', .range 'A' 'F']

def PropertyQuery.set? : PropertyQuery → Option CharSet
  | .named name => Unicode.named? name
  | .valued key value => Unicode.valued? key value

def Flags.property (f : Flags) (q : PropertyQuery) (negated : Bool) : Except Fault CharSet :=
  if !f.unicode then .error .needsUnicode
  else match q.set? with
    | none => .error .unknownProperty
    | some s => f.complement negated (f.fold s)

/- The set of a class. Named classes fold their case and shorthands do not. The operands of
an operation fold before it; a class folds before it is negated. -/
def ClassExpr.set (f : Flags) : ClassExpr → Except Fault CharSet
  | .empty => .ok .empty
  | .literal l => do .ok (.single (← f.classLiteral l))
  | .range lo hi => do .ok (.range (← f.classLiteral lo) (← f.classLiteral hi))
  | .posix k negated => f.complement negated (f.fold k.set)
  | .shorthand k negated => f.complement negated (k.set f.unicode)
  | .property q negated => f.property q negated
  | .bracket negated body => do f.complement negated (f.fold (← body.set f)).compact
  | .both a b => do .ok (.union (← a.set f) (← b.set f))
  | .op k a b => do
    let a := f.fold (← a.set f)
    let b := f.fold (← b.set f)
    .ok (match k with
      | .inter => .inter a b
      | .diff => .diff a b
      | .symmDiff => .symmDiff a b)

namespace Expr

/- The node of an expression, with the flags in force behind it. A directive holds to the
end of the innermost group. -/
def node (f : Flags) : Expr → Except Fault (Node × Flags)
  | empty => .ok (.empty, f)
  | flags edit => .ok (.empty, f.edit edit)
  | literal l => do .ok (.set (← f.literal l), f)
  | dot => do .ok (.set (← f.dot), f)
  | anchor a => .ok (.look (f.anchor a), f)
  | shorthand k negated => do .ok (.set (← f.complement negated (k.set f.unicode)), f)
  | property q negated => do .ok (.set (← f.property q negated), f)
  | bracket negated body => do
    .ok (.set (← f.complement negated (f.fold (← body.set f)).compact), f)
  | times min max greedy body => do
    let (a, f) ← body.node f
    .ok (.times min max (greedy != f.swapGreed) a, f)
  | group kind body => do
    match kind with
    | .capture index =>
      let (a, _) ← body.node f
      .ok (.group (some index) a, f)
    | .scope edit =>
      let (a, _) ← body.node (f.edit edit)
      .ok (.group none a, f)
  | seq a b => do
    let (a, f) ← a.node f
    let (b, f) ← b.node f
    .ok (.seq a b, f)
  | alt a b => do
    let (a, f) ← a.node f
    let (b, f) ← b.node f
    .ok (.alt a b, f)

end Expr

end Signpost.Regex
