import Signpost.Proofs.Chain.Dispatching
import Signpost.Proofs.Chain.Mounting

/-! Negotiation in front of dispatchers and behind them. Where no route takes the request, a
dispatcher does its work before the rest of the chain runs, and a negotiation does its own on what
the rest has left. So it does not matter which of them comes first. -/
namespace Signpost.Chain
open Route (Table)
variable {σ : Type}

namespace Negotiation

/- What becomes of the outcome that the rest of the chain left. -/
def settle (n : Negotiation) (out : Outcome σ) : Outcome σ :=
  match out.result with
  | .ok none => if out.context.response.status = .notFound then n.answer out.context else out
  | _ => out

theorem middlewareSettles (n : Negotiation) (next : Next σ) (ctx : Context σ) :
    n.middleware next ctx = n.settle (next.run ctx) := rfl

theorem settleUnanswered (n : Negotiation) {out : Outcome σ} (bodiless : out.result = .ok none)
    (unset : out.context.response.status = .notFound) : n.settle out = n.answer out.context := by
  simp only [settle, bodiless, unset, if_true]

theorem settleAnswered (n : Negotiation) {out : Outcome σ}
    (answered : out.result ≠ .ok none ∨ out.context.response.status ≠ .notFound) :
    n.settle out = out := by
  unfold settle
  split
  next bodiless =>
    rcases answered with valued | set
    · exact absurd bodiless valued
    · rw [if_neg set]
  · rfl

/- Among dispatchers that take nothing the negotiation stands in any place. -/
theorem settlesAnywhere (n : Negotiation) (front back : List (Router (Middleware σ)))
    (rest : List (Middleware σ)) {ctx : Context σ}
    (miss : ∀ r ∈ front ++ back, r.table.choose? ctx.method ctx.path = none) :
    (Next.ofChain (front.map Router.routes ++
        n.middleware :: (back.map Router.routes ++ rest))).run ctx =
      n.settle ((Next.ofChain rest).run (missAll ctx (front ++ back))) := by
  obtain ⟨before, behind⟩ := List.forall_mem_append.mp miss
  have later : ∀ r ∈ back, r.table.choose? (missAll ctx front).method (missAll ctx front).path =
      none := by
    simp only [Context.method, Context.path, requestAfterAll]
    exact behind
  have joined : missAll (missAll ctx front) back = missAll ctx (front ++ back) := by
    simp only [missAll, List.foldl_append]
  rw [missedRun _ before, Next.runOfChainCons, middlewareSettles, missedRun _ later, joined]

end Negotiation

/- The outcome is that of the rest of the chain, run with the methods of the path on record. Where
it left the request unanswered, the negotiation answers. -/
theorem negotiationCommutes (routes : Table (Middleware σ)) (n : Negotiation)
    (rest : List (Middleware σ)) (ctx : Context σ)
    (miss : routes.choose? ctx.method ctx.path = none) :
    let allowed := routes.allowedFor ctx.path
    let left := (Next.ofChain rest).run { ctx with
      pathMethods := if allowed = .empty then ctx.pathMethods else some allowed
      log := ctx.log ++ [.noRouteMatched ctx.method ctx.path allowed] }
    let out := (Next.ofChain ([dispatchTo routes, n.middleware] ++ rest)).run ctx
    (Next.ofChain ([n.middleware, dispatchTo routes] ++ rest)).run ctx = out ∧
      (left.result = .ok none → left.context.response.status = .notFound →
        out = n.answer left.context) ∧
      (left.result ≠ .ok none ∨ left.context.response.status ≠ .notFound → out = left) := by
  intro allowed left out
  let router : Router (Middleware σ) := { table := routes }
  have missed : ∀ r ∈ [router], r.table.choose? ctx.method ctx.path = none := by
    intro r member
    rw [List.mem_singleton.mp member]
    exact miss
  have recorded : (Next.ofChain rest).run (missAll ctx [router]) = left :=
    congrArg (Next.ofChain rest).run (missExact ctx allowed)
  have behind : out = n.settle left := by
    rw [← recorded]
    exact n.settlesAnywhere [router] [] rest missed
  have before : (Next.ofChain ([n.middleware, dispatchTo routes] ++ rest)).run ctx =
      n.settle left := by
    rw [← recorded]
    exact n.settlesAnywhere [] [router] rest missed
  refine ⟨before.trans behind.symm, ?_, ?_⟩
  · intro bodiless unset
    rw [behind, n.settleUnanswered bodiless unset]
  · intro answered
    rw [behind, n.settleAnswered answered]

/- The middleware in the rest writes a body and leaves the status, so the negotiation fails. -/
theorem raisingCommutes : ∃ p, Route.PathPattern.compile "/a" = .ok p ∧
    let routes : Table (Middleware Unit) := [⟨p, .ofVerbs [.get], fun next ctx => next.run ctx⟩]
    let n : Negotiation := ⟨.all, true, some (.other "refused")⟩
    let rest : List (Middleware Unit) :=
      [fun next ctx => next.run (ctx.setBody (.ofText "searched"))]
    let ctx : Context Unit :=
      { request := { method := .ofVerb .delete, uri := ⟨"/a", none⟩ }, notes := () }
    routes.choose? ctx.method ctx.path = none ∧
      (Next.ofChain ([n.middleware, dispatchTo routes] ++ rest)).run ctx =
        (Next.ofChain ([dispatchTo routes, n.middleware] ++ rest)).run ctx ∧
      ((Next.ofChain ([n.middleware, dispatchTo routes] ++ rest)).run ctx).result =
        .error (.other "refused") := by
  refine ⟨_, rfl, ?_⟩
  intro routes n rest ctx
  have miss : routes.choose? ctx.method ctx.path = none := by decide +kernel
  have same := (negotiationCommutes routes n rest ctx miss).1
  refine ⟨miss, same, ?_⟩
  decide +kernel

end Signpost.Chain
