import Signpost.Chain.Middleware

/-! Answers to requests that no route took: which methods there are for the path, that the
method is not allowed, or that it is not implemented at all. -/
namespace Signpost.Chain
open Http (Failure HttpError Status Verb)

structure NegotiationOptions where
  /- Without it all known methods are implemented. -/
  methods : Option MethodSet := none
  /- Refuse by failing, where otherwise a response is written. -/
  throws : Bool := false
  factory : Option Failure := none
  deriving DecidableEq, Repr

def NegotiationOptions.shown (o : NegotiationOptions) : String :=
  Text.shownRecord "AllowedMethodsOptions"
    [("methods", Text.shownOption (o.methods.map fun s => Text.shownSet (s.names.map Text.quoted))),
     ("throw", Text.shownBool o.throws),
     ("not_implemented", Text.shownBool o.factory.isSome)]

structure Negotiation where
  implemented : MethodSet
  throws : Bool
  factory : Option Failure
  deriving DecidableEq, Repr

namespace Negotiation

def ofOptions (o : NegotiationOptions) : Negotiation :=
  ⟨o.methods.getD .all, o.throws, o.factory⟩

def shown (n : Negotiation) : String :=
  Text.shownRecord "AllowedMethods"
    [("implemented", Text.shownSet (n.implemented.names.map Text.quoted)),
     ("throw", Text.shownBool n.throws),
     ("not_implemented", Text.shownBool n.factory.isSome)]

def failure (n : Negotiation) (fallback : HttpError) : Failure := n.factory.getD (.http fallback)

variable {σ : Type}

def respond (ctx : Context σ) (status : Status) (allow : MethodSet) : Outcome σ :=
  let ctx := ctx.setStatus status
  match ctx.response.set? .allow allow.names with
  | some response => ⟨.ok none, { ctx with response }⟩
  | none => ⟨.error (.other Http.badHeaderValue), ctx⟩

/- The methods of the path, from the route that took the request or those that match. -/
def allowed (ctx : Context σ) : MethodSet :=
  ((ctx.matched.map MatchedRoute.methods).or ctx.pathMethods).getD .empty

def notAllowedError (allowed : MethodSet) : HttpError :=
  HttpError.methodNotAllowed.withHeader .allow allowed.headerValue

def answer (n : Negotiation) (ctx : Context σ) : Outcome σ :=
  let allow := allowed ctx
  if !n.implemented.contains ctx.method then
    let ctx := ctx.emit (.notImplemented ctx.method ctx.path)
    if n.throws then ⟨.error (n.failure .notImplemented), ctx⟩
    else respond ctx .notImplemented allow
  else if allow.isEmpty then ⟨.ok none, ctx⟩
  else if ctx.method.verb? = some Verb.options then
    let out := respond (ctx.emit (.optionsAnswered ctx.path allow)) .ok allow
    match out.result with
    | .ok _ => ⟨.ok none, out.context.setBody .empty⟩
    | .error _ => out
  else if allow.contains ctx.method then ⟨.ok none, ctx⟩
  else
    let ctx := ctx.emit (.notAllowed ctx.method ctx.path allow)
    if n.throws then ⟨.error (n.failure (notAllowedError allow)), ctx⟩
    else respond ctx .methodNotAllowed allow

/- Negotiation runs behind the rest of the chain. -/
def middleware (n : Negotiation) : Middleware σ := fun next ctx =>
  let out := next.run ctx
  match out.result with
  | .ok none => if out.context.response.status = .notFound then n.answer out.context else out
  | _ => out

end Negotiation
end Signpost.Chain
