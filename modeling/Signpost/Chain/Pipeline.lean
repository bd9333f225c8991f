import Signpost.Chain.Middleware

/-! Pipelines: a whole chain, run for a request and turned into a response. -/
namespace Signpost.Chain
open Http (HttpError Request Response)

structure Builder (σ : Type) where
  chain : List (Middleware σ) := []

structure Pipeline (σ : Type) where
  chain : List (Middleware σ)

namespace Builder
variable {σ : Type}

def addLast (b : Builder σ) (m : Middleware σ) : Builder σ := ⟨b.chain ++ [m]⟩

def addFirst (b : Builder σ) (m : Middleware σ) : Builder σ := ⟨m :: b.chain⟩

def build (b : Builder σ) : Pipeline σ := ⟨b.chain⟩

def shown (b : Builder σ) : String :=
  Text.shownRecord "PipelineBuilder" [("middlewares", toString b.chain.length)]

end Builder

namespace Pipeline
variable {σ : Type}

def shown (p : Pipeline σ) : String :=
  Text.shownRecord "Pipeline" [("middlewares", toString p.chain.length)]

/- Runs the chain. A value that it returns becomes the body of the response. -/
def handle (p : Pipeline σ) (ctx : Context σ) : Outcome σ :=
  let out := (Next.ofChain p.chain).run ctx
  match out.result with
  | .ok (some body) =>
    let ctx := (out.context.emit (.bodyReturned out.context.path)).claimFound.setBody body
    ⟨.ok (some body), ctx⟩
  | _ => out

/- Runs the chain for a new request. A failure with a status of its own is answered with
it, any other as an internal error. -/
def dispatch (p : Pipeline σ) (request : Request) (notes : σ) : Response × Context σ :=
  let out := p.handle { request, notes }
  match out.result with
  | .ok _ => (out.context.response, out.context)
  | .error (.http e) => (e.response, out.context)
  | .error (.other text) =>
    let ctx := out.context
    ((HttpError.ofStatus .internalServerError).response,
      ctx.emit (.middlewareFailed text ctx.method ctx.path))

end Pipeline
end Signpost.Chain
