import Signpost.Proofs.Chain.Refusal

/-! Two ways to deliver a refusal. A negotiation writes it into the response, or it fails and the
pipeline makes a response of the failure. Whatever stands behind the negotiation, the status is
the same both ways, and so are the methods that are listed where the method is not allowed. -/
namespace Signpost.Chain
open Http (Headers HttpError Request Response Status Verb)
variable {σ : Type}

namespace Negotiation

/- The answer is the negotiation's own: the rest of the chain left another status. -/
def Answers (n : Negotiation) (next : Next σ) (ctx : Context σ) (status : Status) : Prop :=
  (next.run ctx).context.response.status ≠ status ∧
    (n.middleware next ctx).context.response.status = status

/- What writing and raising come to, behind a rest of the chain that left the status. -/
inductive Delivered (left : Status) : Outcome σ → Outcome σ → Prop
  | kept {out} (status : out.context.response.status = left) : Delivered left out out
  | answered {out} (bodiless : out.result = .ok none) (status : out.context.response.status = .ok) :
      Delivered left out out
  | notImplemented (ctx : Context σ) (allow : MethodSet) (unset : left = .notFound) :
      Delivered left (respond ctx .notImplemented allow) ⟨.error (.http .notImplemented), ctx⟩
  | notAllowed (ctx : Context σ) (allow : MethodSet) (unset : left = .notFound) :
      Delivered left (respond ctx .methodNotAllowed allow)
        ⟨.error (.http (notAllowedError allow)), ctx⟩

theorem answerDelivered (implemented : MethodSet) {ctx : Context σ}
    (unset : ctx.response.status = .notFound) :
    Delivered ctx.response.status (answer ⟨implemented, false, none⟩ ctx)
      (answer ⟨implemented, true, none⟩ ctx) := by
  unfold answer
  cases implemented.contains ctx.method with
  | false => exact .notImplemented _ _ unset
  | true =>
    simp only [Bool.not_true, Bool.false_eq_true, if_false]
    cases (allowed ctx).isEmpty with
    | true => exact .kept rfl
    | false =>
      simp only [Bool.false_eq_true, if_false, if_true]
      by_cases asks : ctx.method.verb? = some Verb.options
      · simp only [asks, respondWrites, if_true]
        exact .answered rfl rfl
      · simp only [asks, if_false]
        cases (allowed ctx).contains ctx.method with
        | true => exact .kept rfl
        | false => exact .notAllowed _ _ unset

theorem middlewareDelivered (implemented : MethodSet) (next : Next σ) (ctx : Context σ) :
    Delivered (next.run ctx).context.response.status
      (middleware ⟨implemented, false, none⟩ next ctx)
      (middleware ⟨implemented, true, none⟩ next ctx) := by
  unfold middleware
  simp only
  split
  · split
    next unset => exact answerDelivered implemented unset
    · exact .kept rfl
  · exact .kept rfl

section
variable {left status : Status} {written raised : Outcome σ}
  (delivered : Delivered left written raised)
include delivered

theorem deliveredStatus : written.rendered.status = raised.rendered.status := by
  cases delivered with
  | kept _ => rfl
  | answered _ _ => rfl
  | notImplemented ctx allow _ => rw [respondWrites]; rfl
  | notAllowed ctx allow _ => rw [respondWrites]; rfl

/- A status that the rest of the chain did not leave comes without a body. -/
theorem deliveredAnswer (other : left ≠ status)
    (answered : written.context.response.status = status) :
    written.rendered.status = status := by
  cases delivered with
  | kept same => exact absurd (same.symm.trans answered) other
  | answered bodiless _ => rw [Outcome.rendered, bodiless]; exact answered
  | notImplemented ctx allow _ => rw [respondWrites] at answered ⊢; exact answered
  | notAllowed ctx allow _ => rw [respondWrites] at answered ⊢; exact answered

theorem deliveredAllow (other : left ≠ .methodNotAllowed)
    (answered : written.context.response.status = .methodNotAllowed) :
    ∃ value, written.rendered.headers.values .allow = [value] ∧
      raised.rendered.headers.values .allow = [value] := by
  cases delivered with
  | kept same => exact absurd (same.symm.trans answered) other
  | answered _ okay => cases okay.symm.trans answered
  | notImplemented ctx allow _ => rw [respondWrites] at answered; cases answered
  | notAllowed ctx allow _ =>
    rw [respondWrites]
    exact ⟨allow.headerValue, Headers.valuesInsertSelf _ _ _, Headers.valuesInsertSelf _ _ _⟩

theorem deliveredAlike
    (allowed : left ≠ .methodNotAllowed → written.context.response.status ≠ .methodNotAllowed)
    (implemented : left ≠ .notImplemented → written.context.response.status ≠ .notImplemented) :
    written.rendered = raised.rendered := by
  cases delivered with
  | kept _ => rfl
  | answered _ _ => rfl
  | notImplemented ctx allow unset =>
    rw [respondWrites, unset] at implemented
    exact absurd rfl (implemented (by decide))
  | notAllowed ctx allow unset =>
    rw [respondWrites, unset] at allowed
    exact absurd rfl (allowed (by decide))

end
end Negotiation

/- Two pipelines differ in how the negotiation in front refuses, and in nothing else. Only where
it refuses on its own do their responses differ at all. -/
theorem throwingDelivers (implemented : MethodSet) (rest : List (Middleware σ)) (request : Request)
    (notes : σ) :
    let writing : Negotiation := ⟨implemented, false, none⟩
    let raising : Negotiation := ⟨implemented, true, none⟩
    let written := (Pipeline.dispatch ⟨writing.middleware :: rest⟩ request notes).1
    let raised := (Pipeline.dispatch ⟨raising.middleware :: rest⟩ request notes).1
    let answers := writing.Answers (Next.ofChain rest) { request, notes }
    written.status = raised.status ∧
      (∀ status, answers status → written.status = status) ∧
      (answers .methodNotAllowed → ∃ value, written.headers.values .allow = [value] ∧
        raised.headers.values .allow = [value]) ∧
      (¬ answers .methodNotAllowed → ¬ answers .notImplemented → written = raised) := by
  intro writing raising written raised answers
  have delivered := Negotiation.middlewareDelivered implemented (Next.ofChain rest)
    { request, notes }
  simp only [written, raised, dispatchRenders, Next.runOfChainCons]
  refine ⟨Negotiation.deliveredStatus delivered, ?_, ?_, ?_⟩
  · intro status given
    exact Negotiation.deliveredAnswer delivered given.1 given.2
  · intro given
    exact Negotiation.deliveredAllow delivered given.1 given.2
  · intro allowed supported
    exact Negotiation.deliveredAlike delivered (fun other same => allowed ⟨other, same⟩)
      fun other same => supported ⟨other, same⟩

theorem deleteDelivered : ∃ p, Route.PathPattern.compile "/x" = .ok p ∧
    let routes : Route.Table (Middleware Unit) := [⟨p, .ofVerbs [.get], fun next ctx => next.run ctx⟩]
    let request : Request := { method := .ofVerb .delete, uri := ⟨"/x", none⟩ }
    let writing : Negotiation := ⟨.all, false, none⟩
    let raising : Negotiation := ⟨.all, true, none⟩
    writing.Answers (Next.ofChain [dispatchTo routes]) { request, notes := () } .methodNotAllowed ∧
      ∃ value,
        (Pipeline.dispatch ⟨[writing.middleware, dispatchTo routes]⟩ request ()).1.headers.values
          .allow = [value] ∧
        (Pipeline.dispatch ⟨[raising.middleware, dispatchTo routes]⟩ request ()).1.headers.values
          .allow = [value] := by
  refine ⟨_, rfl, ?_⟩
  intro routes request writing raising
  have answers : writing.Answers (Next.ofChain [dispatchTo routes]) { request, notes := () }
      .methodNotAllowed := ⟨by decide +kernel, by decide +kernel⟩
  have delivered := (throwingDelivers .all [dispatchTo routes] request ()).2.2.1 answers
  refine ⟨answers, ?_⟩
  -- Reducible, since otherwise the dispatches themselves are unfolded.
  with_reducible exact delivered

end Signpost.Chain
