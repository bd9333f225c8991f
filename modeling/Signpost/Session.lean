import Signpost.Chain.Pipeline
import Signpost.Chain.Script
import Signpost.Router.Registry

/-! Sessions: routers and pipelines kept by name. A pipeline holds the routes that its
routers had when it was built. -/
namespace Signpost
open Chain (Act Builder Context Middleware Negotiation Notes Outcome Pipeline)
open Http (ErrorSpec Failure Request Response Status)

inductive SessionError
  | registry (e : RegistryError)
  | noPipeline
  | http (fault : Http.Fault)
  deriving DecidableEq, Repr

inductive Factory
  | text (s : String)
  | http (spec : ErrorSpec)
  deriving DecidableEq, Repr

/- A faulty description is found out when the failure is raised. -/
def Factory.failure : Factory → Failure
  | text s => .other s
  | http spec => Chain.Script.specFailure spec

inductive Link (α : Type)
  | routes (router : String)
  | negotiation (router : String) (options : Setting) (factory : Option Factory)
  | plainNegotiation
  | script (acts : List (Act α))

structure Session (α : Type) where
  registry : Registry (Middleware (Notes α)) := {}
  pipelines : List (String × Pipeline (Notes α)) := []

namespace Session
variable {α : Type}

def findRouter (s : Session α) (name : String) :
    Except SessionError (Router (Middleware (Notes α))) :=
  match s.registry.get? name with
  | some r => .ok r
  | none => .error (.registry .noRouter)

def findPipeline (s : Session α) (name : String) : Except SessionError (Pipeline (Notes α)) :=
  match s.pipelines.find? (·.1 == name) with
  | some p => .ok p.2
  | none => .error .noPipeline

/- The negotiation of a link, which reads its options first and its router last. -/
def negotiation (s : Session α) (router : String) (options : Setting)
    (factory : Option Factory) : Except SessionError Negotiation :=
  match negotiationOptions options with
  | .error fault => .error (.registry (.setting fault))
  | .ok o => do
    let r ← s.findRouter router
    .ok (r.negotiation { o with factory := factory.map Factory.failure })

def middleware (s : Session α) : Link α →
    Except SessionError (Middleware (Notes α) × Option MethodSet)
  | .routes router => do
    let r ← s.findRouter router
    .ok (r.routes, none)
  | .negotiation router options factory => do
    let n ← s.negotiation router options factory
    .ok (n.middleware, some n.implemented)
  | .plainNegotiation =>
    let n := Negotiation.ofOptions {}
    .ok (n.middleware, some n.implemented)
  | .script acts => .ok (Chain.Script.middleware acts, none)

structure Built (α : Type) where
  builder : Builder (Notes α) := {}
  implemented : List MethodSet := []

def build (s : Session α) (b : Built α) : List (Link α × Bool) → Except SessionError (Built α)
  | [] => .ok b
  | (link, first) :: links => do
    let (m, implemented?) ← s.middleware link
    let builder := if first then b.builder.addFirst m else b.builder.addLast m
    s.build ⟨builder, b.implemented ++ implemented?.toList⟩ links

def putPipeline (s : Session α) (name : String) (p : Pipeline (Notes α)) : Session α :=
  { s with pipelines := s.pipelines.filter (·.1 != name) ++ [(name, p)] }

def step (s : Session α) (step : SetupStep (Middleware (Notes α))) : Session α :=
  { s with registry := s.registry.after step }

def readRequest (method uri : String) : Except SessionError Request :=
  match Request.read method uri [] with
  | .ok r => .ok r
  | .error fault => .error (.http fault)

def dispatch (s : Session α) (pipeline method uri : String) :
    Except SessionError (Response × Context (Notes α)) := do
  let p ← s.findPipeline pipeline
  let request ← readRequest method uri
  .ok (p.dispatch request [])

def handle (s : Session α) (pipeline method uri : String) (status : Option Nat) :
    Except SessionError (Outcome (Notes α)) := do
  let p ← s.findPipeline pipeline
  let request ← readRequest method uri
  let ctx : Context (Notes α) := { request, notes := [] }
  match status with
  | none => .ok (p.handle ctx)
  | some code =>
    match Status.ofNat? code with
    | some status => .ok (p.handle (ctx.setStatus status))
    | none => .error (.http .status)

end Session
end Signpost
