import Signpost.Chain.Middleware
import Signpost.Route.Basic

/-! The middleware that hands a request to the route chosen for it. -/
namespace Signpost.Chain
open Route (Chosen Table)
variable {σ : Type}

def Context.enter (ctx : Context σ) (c : Chosen (Middleware σ)) : Context σ :=
  let ctx := ctx.emit (.routeMatched ctx.method ctx.path c.route.raw)
  let ctx := { ctx with matched := some ⟨c.route.raw, c.route.methods, c.slugs⟩ }
  ctx.claimFound.setSlugs c.slugs

def Context.miss (ctx : Context σ) (allowed : MethodSet) : Context σ :=
  let ctx := ctx.emit (.noRouteMatched ctx.method ctx.path allowed)
  if allowed.isEmpty then ctx else { ctx with pathMethods := some allowed }

def dispatchTo (routes : Table (Middleware σ)) : Middleware σ := fun next ctx =>
  match routes.choose? ctx.method ctx.path with
  | some c => c.route.handler next (ctx.enter c)
  | none => next.run (ctx.miss (routes.allowedFor ctx.path))

def shownDispatch (routes : Table (Middleware σ)) : String :=
  Text.shownRecord "Routes" [("routes", toString routes.length)]

end Signpost.Chain
