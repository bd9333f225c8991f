import Signpost.Http.Request
import Signpost.MethodSet
import Signpost.Route.PathPattern

/-! Routes, and the choice of one for a request. A template that equals the path wins at
once; otherwise the longest template that matches does, the first one among equals. -/
namespace Signpost
open Http (Method Slugs)

structure Route (H : Type) where
  pattern : Route.PathPattern
  methods : MethodSet
  handler : H

namespace Route

def raw {H : Type} (r : Route H) : String := r.pattern.raw

def allows {H : Type} (r : Route H) (m : Method) : Bool := r.methods.contains m

def shown {H : Type} (shownHandler : H → String) (r : Route H) : String :=
  Text.shownRecord "Route"
    [("pattern", r.pattern.shown),
     ("methods", Text.shownSet (r.methods.names.map Text.quoted)),
     ("handler", shownHandler r.handler)]

inductive BuildError
  | unsupportedMethod (e : UnsupportedMethod)
  | pattern (e : PatternError)
  deriving DecidableEq, Repr

/- A route from its parts; here the set of methods may be empty. -/
def build {H : Type} (spelling : MethodSpelling) (template : String) (handler : H) :
    Except BuildError (Route H) :=
  match spelling.toSet with
  | .error e => .error (.unsupportedMethod e)
  | .ok methods =>
    match PathPattern.compile template with
    | .error e => .error (.pattern e)
    | .ok pattern => .ok ⟨pattern, methods, handler⟩

structure Chosen (H : Type) where
  route : Route H
  values : List String

namespace Chosen

/- The slugs by name; a repeated name keeps the last of its values. -/
def slugs {H : Type} (c : Chosen H) : Slugs :=
  .ofPairs (c.route.pattern.slugNames.zip c.values)

def length {H : Type} (c : Chosen H) : Nat := c.route.raw.utf8ByteSize

def longer {H : Type} (best c : Chosen H) : Chosen H := if best.length < c.length then c else best

def longest? {H : Type} : List (Chosen H) → Option (Chosen H)
  | [] => none
  | c :: cs => some (cs.foldl longer c)

def shown {H : Type} (shownHandler : H → String) (c : Chosen H) : String :=
  Text.shownRecord "RouteMatch"
    [("route", c.route.shown shownHandler),
     ("slug_values", Text.shownList (c.values.map Text.quoted))]

end Chosen

abbrev Table (H : Type) := List (Route H)

namespace Table

def literal? {H : Type} (routes : Table H) (m : Method) (path : String) : Option (Route H) :=
  routes.find? fun r => r.allows m && !r.pattern.hasSlugs && r.raw == path

def candidates {H : Type} (routes : Table H) (m : Method) (path : String) : List (Chosen H) :=
  (routes.filter (·.allows m)).filterMap fun r =>
    (r.pattern.captures? path).map fun values => ⟨r, values⟩

def choose? {H : Type} (routes : Table H) (m : Method) (path : String) : Option (Chosen H) :=
  match routes.literal? m path with
  | some r => some ⟨r, []⟩
  | none => Chosen.longest? (routes.candidates m path)

def allowedFor {H : Type} (routes : Table H) (path : String) : MethodSet :=
  (routes.filter (·.pattern.isMatch path)).foldl (fun s r => s.union r.methods) .empty

def shown {H : Type} (shownHandler : H → String) (routes : Table H) : String :=
  Text.shownRecord "RouteTable" [("routes", Text.shownList (routes.map (·.shown shownHandler)))]

end Table
end Route
end Signpost
