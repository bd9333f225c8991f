import Signpost.Chain.Middleware

/-! Middlewares written as lists of acts. The value of a script starts as none, and each act
that makes a value replaces it; a failing act ends the script. -/
namespace Signpost.Chain
open Http (Body ErrorSpec Failure HeaderName Slugs Status)

inductive Act (α : Type)
  | say (v : α)
  | value (text : Option String)
  | slugValue (name : String)
  | targetValue
  | status (code : Nat)
  | body (text : String)
  | header (name : String) (values : List String)
  | slugs (pairs : List (String × String))
  | next
  | recover
  | finish
  | noteRemaining
  | noteState
  | fail (text : String)
  | failHttp (spec : ErrorSpec)

inductive Note (α : Type)
  | said (v : α)
  | ran (value : Option Body) (status : Status)
  | caught (failure : Failure)
  | remaining (count : Nat) (shown : String)
  | state (matched : Option MatchedRoute) (pathMethods : Option MethodSet) (slugs : Slugs)

abbrev Notes (α : Type) := List (Note α)

namespace Script
variable {α : Type}

def note (ctx : Context (Notes α)) (n : Note α) : Context (Notes α) :=
  { ctx with notes := ctx.notes ++ [n] }

def state (ctx : Context (Notes α)) : Note α :=
  .state ctx.matched ctx.pathMethods ctx.request.slugs

def setHeader (ctx : Context (Notes α)) (name : String) (values : List String) :
    Except Failure (Context (Notes α)) :=
  match HeaderName.ofText? name with
  | none => .error (.other Http.Fault.headerName.name)
  | some name =>
    match ctx.response.set? name values with
    | none => .error (.other Http.badHeaderValue)
    | some response => .ok { ctx with response }

def specFailure (spec : ErrorSpec) : Failure :=
  match spec.error with
  | .ok e => .http e
  | .error fault => .other fault.name

def run (next : Next (Notes α)) :
    List (Act α) → Option Body → Context (Notes α) → Outcome (Notes α)
  | [], value, ctx => ⟨.ok value, ctx⟩
  | act :: rest, value, ctx =>
    match act with
    | .say v => run next rest value (note ctx (.said v))
    | .value text => run next rest (text.map Body.ofText) ctx
    | .slugValue name => run next rest ((ctx.request.slugs.get? name).map Body.ofText) ctx
    | .targetValue =>
      run next rest (some (.ofText (ctx.method.name ++ " " ++ ctx.path))) ctx
    | .status code =>
      match Status.ofNat? code with
      | some status => run next rest value (ctx.setStatus status)
      | none => ⟨.error (.other Http.Fault.status.name), ctx⟩
    | .body text => run next rest value (ctx.setBody (.ofText text))
    | .header name values =>
      match setHeader ctx name values with
      | .ok ctx => run next rest value ctx
      | .error f => ⟨.error f, ctx⟩
    | .slugs pairs => run next rest value (ctx.setSlugs (.ofPairs pairs))
    | .next =>
      let out := next.run ctx
      match out.result with
      | .ok value =>
        run next rest value (note out.context (.ran value out.context.response.status))
      | .error _ => out
    | .recover =>
      let out := next.run ctx
      match out.result with
      | .ok value => run next rest value out.context
      | .error f => run next rest value (note out.context (.caught f))
    | .finish =>
      let out := Next.done.run ctx
      match out.result with
      | .ok value => run next rest value out.context
      | .error _ => out
    | .noteRemaining => run next rest value (note ctx (.remaining next.remaining next.shown))
    | .noteState => run next rest value (note ctx (state ctx))
    | .fail text => ⟨.error (.other text), ctx⟩
    | .failHttp spec => ⟨.error (specFailure spec), ctx⟩

def middleware (acts : List (Act α)) : Middleware (Notes α) := fun next ctx => run next acts none ctx

def shown : String := "FnMiddleware"

end Script
end Signpost.Chain
