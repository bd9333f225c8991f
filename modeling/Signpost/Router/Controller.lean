import Signpost.Router.Basic

/-! Controllers: actions whose keys hold their methods and their path. -/
namespace Signpost
open Route (PathPattern Table)

structure Controller (H : Type) where
  actions : List (String × H)

namespace Controller
variable {H : Type}

def shown (c : Controller H) : String := Text.shownList (c.actions.map fun a => Text.quoted a.1)

/- The methods and the path of a key, up to its second blank. A key without a blank is a
path for GET. -/
def splitKey (key : String) : Option String × String :=
  match Text.fields ' ' key.toList with
  | methods :: path :: _ => (some (String.ofList methods), String.ofList path)
  | _ => (none, key)

structure Registered (α : Type) where
  log : List Event
  result : Except SetupError α

/- A path without a leading slash skips the action, but only if its methods are known. -/
def registerAction (key : String) (handler : H) : Registered (Option (Route H)) :=
  let (methods?, path) := splitKey key
  let log := if methods?.isNone then [.implicitMethod path] else []
  if path.isEmpty then ⟨log, .error (.missingPath key)⟩
  else match MethodSet.parse (methods?.getD "GET") with
    | .error e => ⟨log, .error (.unsupportedMethod e)⟩
    | .ok methods =>
      if path.toList.head? = some '/' then
        match PathPattern.compile path with
        | .error e => ⟨log, .error (.pattern e)⟩
        | .ok pattern =>
          ⟨log ++ [.actionRegistered methods path], .ok (some ⟨pattern, methods, handler⟩)⟩
      else ⟨log ++ [.actionSkipped key], .ok none⟩

/- The first action that fails ends the registration of all. -/
def registerActions : List (String × H) → Registered (Table H)
  | [] => ⟨[], .ok []⟩
  | (key, handler) :: rest =>
    let first := registerAction key handler
    match first.result with
    | .error e => ⟨first.log, .error e⟩
    | .ok route? =>
      let others := registerActions rest
      ⟨first.log ++ others.log, others.result.map (route?.toList ++ ·)⟩

def register (controllers : List (Controller H)) : Registered (Table H) :=
  registerActions (controllers.flatMap actions)

end Controller

/- The prefix of the router is not applied to actions. -/
def Router.addControllers {H : Type} (r : Router H) (controllers : List (Controller H)) :
    Controller.Registered (Router H) :=
  let added := Controller.register controllers
  ⟨added.log, added.result.map fun table => { r with table := r.table ++ table }⟩

end Signpost
