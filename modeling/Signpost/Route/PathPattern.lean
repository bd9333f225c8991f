import Signpost.Regex.Basic
import Signpost.Route.Segment
import Signpost.Text.Fields
import Signpost.Text.Shown

/-! Path templates compiled to anchored regular expressions. A query or fragment behind the
path is accepted and ignored. -/
namespace Signpost.Route

inductive PatternError
  | missingSlash (path : String)
  | illegalName (name path : String)
  | wildcard (path : String) (run : Nat)
  | invalidRegex (path : String) (fault : Regex.Fault)
  deriving DecidableEq, Repr

/- The fault of a regular expression is left out of the text. -/
def PatternError.message : PatternError → String
  | missingSlash path => "expect path \"" ++ path ++ "\" to start with \"/\""
  | illegalName name path =>
    "expect \"" ++ name ++ "\" to be a legal part of path \"" ++ path ++ "\""
  | wildcard path run =>
    "expect \"*\" or \"**\" in path \"" ++ path ++ "\", found " ++ toString run ++ " \"*\""
  | invalidRegex path _ => "path \"" ++ path ++ "\" compiles to an invalid regular expression: "

structure PathPattern where
  raw : String
  regex : Regex
  slugNames : List String
  slugPositions : List Nat
  deriving Repr

/- The tail that every source ends with. Its two groups are the last ones and no slugs. -/
def tailSource : List Char := "([?].*)?([#].*)?$".toList

def tailGroups : Nat := 2

def SegmentFault.inPath (path : String) : SegmentFault → PatternError
  | illegalName name => .illegalName (String.ofList name) path
  | wildcard run => .wildcard path run

/- The segments behind the leading slash; of several defective ones the leftmost counts. -/
def readSegments (rest : List Char) : Except SegmentFault (List Segment) :=
  (Text.fields '/' rest).mapM Segment.read

def assemble (segments : List Segment) : List Char :=
  '^' :: '/' :: (['/'].intercalate (segments.map Segment.source) ++ tailSource)

def namedSegments (segments : List Segment) : List (String × Nat) :=
  segments.zipIdx.filterMap fun (s, i) => s.name?.map fun name => (String.ofList name, i)

namespace PathPattern

def compile (template : String) : Except PatternError PathPattern :=
  match template.toList with
  | '/' :: rest =>
    match readSegments rest with
    | .error fault => .error (fault.inPath template)
    | .ok segments =>
      match Regex.compile (String.ofList (assemble segments)) with
      | .error fault => .error (.invalidRegex template fault)
      | .ok regex =>
        let slugs := namedSegments segments
        .ok ⟨template, regex, slugs.map Prod.fst, slugs.map Prod.snd⟩
  | _ => .error (.missingSlash template)

theorem compileSteps {template : String} {p : PathPattern} (compiled : compile template = .ok p) :
    ∃ rest segments, template.toList = '/' :: rest ∧ readSegments rest = .ok segments ∧
      Regex.compile (String.ofList (assemble segments)) = .ok p.regex ∧
      p = ⟨template, p.regex, (namedSegments segments).map Prod.fst,
        (namedSegments segments).map Prod.snd⟩ := by
  unfold compile at compiled
  split at compiled
  next rest slash =>
    split at compiled
    · cases compiled
    next segments split =>
      split at compiled
      · cases compiled
      next regex built =>
        cases compiled
        exact ⟨rest, segments, slash, split, built, rfl⟩
  · cases compiled

def hasSlugs (p : PathPattern) : Bool := !p.slugNames.isEmpty

def isMatch (p : PathPattern) (path : String) : Bool := p.regex.isMatch path.toList

def captures? (p : PathPattern) (path : String) : Option (List String) :=
  let text := path.toList
  (p.regex.find? text).map fun t =>
    let count := p.regex.groupCount - tailGroups
    let saves := Regex.saves t.slots (2 * count + 2)
    (List.range count).map fun i => String.ofList (Regex.groupText text saves (i + 1))

theorem isMatchIsCaptured (p : PathPattern) (path : String) :
    p.isMatch path = (p.captures? path).isSome := by
  simp [isMatch, captures?, Regex.isMatch]

def shown (p : PathPattern) : String :=
  Text.shownRecord "PathPattern"
    [("raw", Text.quoted p.raw),
     ("regex", "Regex(" ++ Text.quoted p.regex.source ++ ")"),
     ("slug_names", Text.shownList (p.slugNames.map Text.quoted)),
     ("slug_positions", Text.shownList (p.slugPositions.map toString))]

end PathPattern
end Signpost.Route
