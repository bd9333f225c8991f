import Signpost.MethodSet

/-! What routers and pipelines report while they are set up and run. -/
namespace Signpost
open Http (Method)

inductive Event
  | routeRegistered (methods : MethodSet) (path : String)
  | actionRegistered (methods : MethodSet) (path : String)
  | implicitMethod (path : String)
  | actionSkipped (key : String)
  | noRouteMatched (method : Method) (path : String) (allowed : MethodSet)
  | routeMatched (method : Method) (path route : String)
  | notImplemented (method : Method) (path : String)
  | optionsAnswered (path : String) (allow : MethodSet)
  | notAllowed (method : Method) (path : String) (allow : MethodSet)
  | bodyReturned (path : String)
  | middlewareFailed (cause : String) (method : Method) (path : String)
  deriving DecidableEq, Repr

inductive Level
  | trace | debug | warn | error
  deriving DecidableEq, Repr

def Level.name : Level → String
  | trace => "TRACE"
  | debug => "DEBUG"
  | warn => "WARN"
  | error => "ERROR"

namespace Event

def level : Event → Level
  | routeRegistered .. | actionRegistered .. | notImplemented .. | optionsAnswered ..
  | notAllowed .. => .debug
  | implicitMethod _ | actionSkipped _ => .warn
  | noRouteMatched .. | routeMatched .. | bodyReturned _ => .trace
  | middlewareFailed .. => .error

def message : Event → String
  | routeRegistered .. => "register route"
  | actionRegistered .. => "register controller action"
  | implicitMethod _ => "implicit method is not recommended, resolved as GET"
  | actionSkipped _ => "path must start with \"/\", action skipped"
  | noRouteMatched .. => "no route matched"
  | routeMatched .. => "route matched"
  | notImplemented .. => "method not implemented"
  | optionsAnswered .. => "answer OPTIONS"
  | notAllowed .. => "method not allowed"
  | bodyReturned _ => "chain returned a body"
  | middlewareFailed .. => "middleware failed"

def fields : Event → List (String × String)
  | routeRegistered methods path | actionRegistered methods path =>
    [("methods", methods.text), ("path", path)]
  | implicitMethod path | bodyReturned path => [("path", path)]
  | actionSkipped key => [("key", key)]
  | noRouteMatched method path allowed =>
    [("method", method.name), ("path", path), ("allowed", allowed.text)]
  | routeMatched method path route =>
    [("method", method.name), ("path", path), ("route", route)]
  | notImplemented method path => [("method", method.name), ("path", path)]
  | optionsAnswered path allow => [("path", path), ("allow", allow.text)]
  | notAllowed method path allow =>
    [("method", method.name), ("path", path), ("allow", allow.text)]
  | middlewareFailed cause method path =>
    [("cause", cause), ("method", method.name), ("path", path)]

end Event
end Signpost
