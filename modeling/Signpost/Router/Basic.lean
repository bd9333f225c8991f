import Signpost.Chain.Dispatch
import Signpost.Chain.Negotiation
import Signpost.Setting

/-! Routers: routes under registration, with a prefix for the next ones. -/
namespace Signpost
open Route (PathPattern PatternError Table)
open Chain (Middleware Negotiation NegotiationOptions)

inductive SetupError
  | pattern (e : PatternError)
  | unsupportedMethod (e : UnsupportedMethod)
  | emptyMethods (path : String)
  | missingPath (key : String)
  deriving DecidableEq, Repr

def SetupError.message : SetupError → String
  | pattern e => "invalid route pattern: " ++ e.message
  | unsupportedMethod e => e.message
  | emptyMethods path => "route \"" ++ path ++ "\" requires at least one method"
  | missingPath key => "\"" ++ key ++ "\" pathname required"

structure RouterOptions where
  base : String := ""
  methods : Option MethodSet := none
  deriving DecidableEq, Repr

def shownMethods (methods : Option MethodSet) : String :=
  Text.shownOption (methods.map fun s => Text.shownSet (s.names.map Text.quoted))

namespace RouterOptions

def shown (o : RouterOptions) : String :=
  Text.shownRecord "RouterOptions"
    [("prefix", Text.quoted o.base), ("methods", shownMethods o.methods)]

def ofSetting (s : Setting) : Setting.Read RouterOptions := do
  let (base, methods) ← s.pair "prefix" "methods" (Setting.field Setting.asText "")
    (Setting.field (Setting.asOption Setting.asMethods) none)
  .ok { base, methods }

end RouterOptions

def negotiationOptions (s : Setting) : Setting.Read NegotiationOptions := do
  let (methods, throws) ← s.pair "methods" "throw"
    (Setting.field (Setting.asOption Setting.asMethods) none)
    (Setting.field Setting.asBool false)
  .ok { methods, throws }

/- `base` goes before the path of each route that is added. -/
structure Router (H : Type) where
  table : Table H := []
  base : String := ""
  methods : Option MethodSet := none

namespace Router
variable {H : Type}

def withBase (base : String) : Router H := { base }

def ofOptions (o : RouterOptions) : Router H := { base := o.base, methods := o.methods }

def setBase (r : Router H) (base : String) : Router H := { r with base }

/- Adds a route. Unsupported methods are found first, then an empty set, then a template
that does not compile. -/
def addRoute (r : Router H) (spelling : MethodSpelling) (path : String) (handler : H) :
    Except SetupError (Router H × Event) :=
  let template := r.base ++ path
  match spelling.toSet with
  | .error e => .error (.unsupportedMethod e)
  | .ok methods =>
    if methods.isEmpty then .error (.emptyMethods template)
    else match PathPattern.compile template with
      | .error e => .error (.pattern e)
      | .ok pattern =>
        .ok ({ r with table := r.table ++ [⟨pattern, methods, handler⟩] },
          .routeRegistered methods template)

def append (r other : Router H) : Router H := { r with table := r.table ++ other.table }

/- One router stays as it is; of several only the routes are kept. -/
def merge : List (Router H) → Router H
  | [r] => r
  | routers => routers.foldl append {}

def shown (r : Router H) : String :=
  Text.shownRecord "Router"
    [("routes", Text.shownList (r.table.map fun route => Text.quoted route.raw)),
     ("prefix", Text.quoted r.base),
     ("methods", shownMethods r.methods)]

/- Negotiation with the router's own methods, unless the options name others. -/
def negotiation (r : Router H) (o : NegotiationOptions) : Negotiation :=
  .ofOptions { o with methods := o.methods.or r.methods }

def routes {σ : Type} (r : Router (Middleware σ)) : Middleware σ := Chain.dispatchTo r.table

end Router
end Signpost
