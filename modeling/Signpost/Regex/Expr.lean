/-! Regular expressions as they are written: flags stand where they were set, counted
repetitions are not unrolled. Sequences and alternatives nest to the right, so that a spine
of them is one construct and counts once towards the nesting depth. -/
namespace Signpost.Regex

inductive Flag
  | ignoreCase | multiLine | dotAll | swapGreed | unicode | crlf | verbose
  deriving DecidableEq, Repr

/- The flags set (`true`) or cleared (`false`) by one directive, in order. -/
abbrev FlagEdit := List (Flag × Bool)

def FlagEdit.state? (e : FlagEdit) (f : Flag) : Option Bool :=
  (e.find? (·.1 == f)).map Prod.snd

/- A character, and whether it was written as two hexadecimal digits, which stand for a
byte where Unicode is off. -/
structure Literal where
  char : Char
  byte : Bool := false
  deriving DecidableEq, Repr

inductive Anchor
  | lineStart | lineEnd | textStart | textEnd
  | boundary | notBoundary | wordStart | wordEnd | wordStartHalf | wordEndHalf
  deriving DecidableEq, Repr

inductive Shorthand
  | digit | space | word
  deriving DecidableEq, Repr

inductive PosixClass
  | alnum | alpha | ascii | blank | cntrl | digit | graph | lower | print | punct | space
  | upper | word | xdigit
  deriving DecidableEq, Repr

inductive PropertyQuery
  | named (name : List Char)
  | valued (key value : List Char)
  deriving DecidableEq, Repr

inductive ClassOp
  | inter | diff | symmDiff
  deriving DecidableEq, Repr

/- The inside of a bracketed class. Items that stand side by side nest to the left. -/
inductive ClassExpr
  | empty
  | literal (l : Literal)
  | range (lo hi : Literal)
  | posix (k : PosixClass) (negated : Bool)
  | shorthand (k : Shorthand) (negated : Bool)
  | property (q : PropertyQuery) (negated : Bool)
  | bracket (negated : Bool) (body : ClassExpr)
  | both (a b : ClassExpr)
  | op (k : ClassOp) (a b : ClassExpr)
  deriving DecidableEq, Repr

inductive GroupKind
  | capture (index : Nat)
  | scope (edit : FlagEdit)
  deriving DecidableEq, Repr

inductive Expr
  | empty
  | flags (edit : FlagEdit)
  | literal (l : Literal)
  | dot
  | anchor (a : Anchor)
  | shorthand (k : Shorthand) (negated : Bool)
  | property (q : PropertyQuery) (negated : Bool)
  | bracket (negated : Bool) (body : ClassExpr)
  | times (min : Nat) (max : Option Nat) (greedy : Bool) (body : Expr)
  | group (kind : GroupKind) (body : Expr)
  | seq (a b : Expr)
  | alt (a b : Expr)
  deriving DecidableEq, Repr

def ClassExpr.depth : ClassExpr → Nat
  | bracket _ body => body.depth + 1
  | both (both a b) c => max (both a b).depth (c.depth + 1)
  | both a b => max a.depth b.depth + 1
  | op _ a b => max a.depth b.depth + 1
  | _ => 0

namespace Expr

/- One sequence of the items, which come last first. -/
def sequence : List Expr → Expr
  | [] => empty
  | last :: before => before.foldl (fun rest item => seq item rest) last

def choice : List Expr → Expr
  | [] => empty
  | last :: before => before.foldl (fun rest branch => alt branch rest) last

def depth : Expr → Nat
  | bracket _ body => body.depth + 1
  | times _ _ _ body => body.depth + 1
  | group _ body => body.depth + 1
  | seq a (seq b c) => max (a.depth + 1) (seq b c).depth
  | seq a b => max a.depth b.depth + 1
  | alt a (alt b c) => max (a.depth + 1) (alt b c).depth
  | alt a b => max a.depth b.depth + 1
  | _ => 0

def repeatable : Expr → Bool
  | empty | flags _ => false
  | _ => true

end Expr
end Signpost.Regex
