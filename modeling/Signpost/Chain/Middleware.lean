import Signpost.Event
import Signpost.Http.Request
import Signpost.Http.Response
import Signpost.Text.Shown

/-! Middlewares and the chain they form. A middleware works on the context of one request
and may run the rest of the chain, never, once or several times. It leaves a context also
when it fails. -/
namespace Signpost.Chain
open Http (Body Failure Request Response Slugs Status)

structure MatchedRoute where
  path : String
  methods : MethodSet
  slugs : Slugs
  deriving DecidableEq, Repr

/- All that belongs to one request. `pathMethods` holds the methods of the routes that
match a path whose method none of them allows; `notes` is for the middlewares' own use. -/
structure Context (σ : Type) where
  request : Request
  response : Response := {}
  matched : Option MatchedRoute := none
  pathMethods : Option MethodSet := none
  notes : σ
  log : List Event := []

namespace Context
variable {σ : Type}

def method (ctx : Context σ) : Http.Method := ctx.request.method

def path (ctx : Context σ) : String := ctx.request.path

def emit (ctx : Context σ) (e : Event) : Context σ := { ctx with log := ctx.log ++ [e] }

def setStatus (ctx : Context σ) (status : Status) : Context σ :=
  { ctx with response := { ctx.response with status } }

def setBody (ctx : Context σ) (body : Body) : Context σ :=
  { ctx with response := { ctx.response with body } }

/- A status that was never set becomes a success. -/
def claimFound (ctx : Context σ) : Context σ :=
  if ctx.response.status = .notFound then ctx.setStatus .ok else ctx

def setSlugs (ctx : Context σ) (slugs : Slugs) : Context σ :=
  { ctx with request := { ctx.request with slugs } }

end Context

structure Outcome (σ : Type) where
  result : Except Failure (Option Body)
  context : Context σ

/- The rest of a chain: how many middlewares it has, and what running them does. -/
structure Next (σ : Type) where
  remaining : Nat
  run : Context σ → Outcome σ

abbrev Middleware (σ : Type) := Next σ → Context σ → Outcome σ

namespace Next
variable {σ : Type}

def done : Next σ := ⟨0, fun ctx => ⟨.ok none, ctx⟩⟩

def ofChain : List (Middleware σ) → Next σ
  | [] => done
  | m :: rest => ⟨rest.length + 1, fun ctx => m (ofChain rest) ctx⟩

def shown (next : Next σ) : String :=
  Text.shownRecord "Next" [("remaining", toString next.remaining)]

@[simp]
theorem ofChainNil : ofChain ([] : List (Middleware σ)) = done := rfl

@[simp]
theorem runOfChainCons (m : Middleware σ) (rest : List (Middleware σ)) (ctx : Context σ) :
    (ofChain (m :: rest)).run ctx = m (ofChain rest) ctx := rfl

@[simp]
theorem remainingOfChain (chain : List (Middleware σ)) :
    (ofChain chain).remaining = chain.length := by
  cases chain <;> rfl

end Next
end Signpost.Chain
