import Signpost.Text.Fields

/-! The segments of a path template. A slug captures what its body matches; any other
segment is a regular expression in which `.`, `^` and `$` stand for themselves and one run of
stars is a wildcard. -/
namespace Signpost.Route

inductive Segment
  | slug (name body : List Char)
  | pattern (source : List Char)
  deriving DecidableEq, Repr

inductive SegmentFault
  | illegalName (name : List Char)
  | wildcard (run : Nat)
  deriving DecidableEq, Repr

namespace Segment

/- A slug without a body of its own takes one segment, up to a query or fragment. -/
def defaultBody : List Char := "[^/?#]+".toList

/- The name and body of a segment spelled `:name`, `:name(body)`, `{name}` or
`{name:body}`. -/
def slug? (segment : List Char) : Option (List Char × List Char) :=
  match segment with
  | ':' :: rest =>
    match Text.splitAtFirst ['('] rest with
    | some (name, body) =>
      if body.getLast? = some ')' then some (name, body.dropLast) else some (rest, defaultBody)
    | none => some (rest, defaultBody)
  | '\x7b' :: rest =>
    if rest.getLast? = some '\x7d' then
      match Text.splitAtFirst [':'] rest.dropLast with
      | some (name, body) => some (name, if body.isEmpty then defaultBody else body)
      | none => some (rest.dropLast, defaultBody)
    else none
  | _ => none

def isLegalName (name : List Char) : Bool := name.any fun c => c.isAlphanum || c == '-'

def escaped (text : List Char) : List Char :=
  text.flatMap fun c => if c = '.' ∨ c = '^' ∨ c = '$' then ['\\', c] else [c]

/- What a run of stars matches: part of a segment, or segments as well. -/
def wildcard? : Nat → Option (List Char)
  | 1 => some "[^/]+".toList
  | 2 => some ".*[^/]+".toList
  | _ => none

def patternSource (segment : List Char) : Except SegmentFault (List Char) :=
  let before := segment.takeWhile (· != '*')
  match segment.dropWhile (· != '*') with
  | [] => .ok (escaped segment)
  | stars =>
    let run := (stars.takeWhile (· == '*')).length
    match wildcard? run with
    | some body => .ok (escaped before ++ body ++ escaped (stars.dropWhile (· == '*')))
    | none => .error (.wildcard run)

def read (segment : List Char) : Except SegmentFault Segment :=
  match slug? segment with
  | some (name, body) =>
    if isLegalName name then .ok (.slug name body) else .error (.illegalName name)
  | none => do .ok (.pattern (← patternSource segment))

def source : Segment → List Char
  | slug _ body => '(' :: (body ++ [')'])
  | pattern source => source

def name? : Segment → Option (List Char)
  | slug name _ => some name
  | pattern _ => none

end Segment
end Signpost.Route
