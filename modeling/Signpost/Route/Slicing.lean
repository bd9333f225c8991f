import Signpost.Route.PathPattern
import Signpost.Text.Cutting

/-! Templates read by offsets in bytes. Nothing is read differently this way; what is cut out of
a segment is recorded, and a cut may be refused. -/
namespace Signpost.Route
open Text (Cutting byteSize offsetOf?)

namespace Segment

def slicedSlug (segment : List Char) : Cutting (Option (List Char × List Char)) :=
  match segment with
  | ':' :: rest =>
    match offsetOf? '(' rest with
    | some start =>
      if rest.getLast? = some ')' then do
        let name ← Cutting.slice rest 0 start
        let stop ← Cutting.minus (byteSize rest) 1
        let body ← Cutting.slice rest (start + 1) stop
        return some (name, body)
      else return some (rest, defaultBody)
    | none => return some (rest, defaultBody)
  | _ =>
    if 2 ≤ byteSize segment ∧ segment.head? = some '\x7b' ∧ segment.getLast? = some '\x7d' then do
      let stop ← Cutting.minus (byteSize segment) 1
      let inside ← Cutting.slice segment 1 stop
      match Text.splitAtFirst [':'] inside with
      | some (name, body) => return some (name, if body.isEmpty then defaultBody else body)
      | none => return some (inside, defaultBody)
    else return none

/- The stars are looked for in the escaped text. Their number is one of characters, but it is
added to an offset in bytes. -/
def slicedPattern (segment : List Char) : Cutting (Except SegmentFault (List Char)) :=
  let text := escaped segment
  match offsetOf? '*' text with
  | none => return .ok text
  | some start => do
    let stars ← Cutting.slice text start (byteSize text)
    let run := (stars.takeWhile (· == '*')).length
    match wildcard? run with
    | none => return .error (.wildcard run)
    | some body =>
      let before ← Cutting.slice text 0 start
      let after ← Cutting.slice text (start + run) (byteSize text)
      return .ok (before ++ body ++ after)

def slicedRead (segment : List Char) : Cutting (Except SegmentFault Segment) := do
  match ← slicedSlug segment with
  | some (name, body) =>
    return if isLegalName name then .ok (.slug name body) else .error (.illegalName name)
  | none => return (← slicedPattern segment).map .pattern

end Segment

def slicedSegments : List (List Char) → Cutting (Except SegmentFault (List Segment))
  | [] => return .ok []
  | piece :: pieces => do
    match ← Segment.slicedRead piece with
    | .error fault => return .error fault
    | .ok segment => return (← slicedSegments pieces).map (segment :: ·)

def PathPattern.slicedCompile (template : String) :
    Cutting (Except PatternError PathPattern) :=
  match template.toList with
  | '/' :: rest => do
    match ← slicedSegments (Text.fields '/' rest) with
    | .error fault => return .error (fault.inPath template)
    | .ok segments =>
      let slugs := namedSegments segments
      let regex := Regex.compile (String.ofList (assemble segments))
      return (regex.mapError (.invalidRegex template)).map fun regex =>
        ⟨template, regex, slugs.map Prod.fst, slugs.map Prod.snd⟩
  | _ => return .error (.missingSlash template)

end Signpost.Route
