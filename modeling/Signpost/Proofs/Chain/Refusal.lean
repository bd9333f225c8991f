import Signpost.Chain.Dispatch
import Signpost.Chain.Negotiation
import Signpost.Chain.Pipeline
import Signpost.Proofs.Route.Agreement

/-! The answer of a router with negotiation behind it, for a request that no route takes.
The context is a new one, so nothing but the table, the options and the request decides. -/
namespace Signpost
open Http (Body Failure Headers HttpError Method Request Response Status Verb)

theorem Http.isValueIntercalate {sep : String} {parts : List String} (between : isValue sep = true)
    (each : ∀ s ∈ parts, isValue s = true) : isValue (sep.intercalate parts) = true := by
  induction parts with
  | nil => rw [String.intercalate_nil]; rfl
  | cons s rest ih =>
    have first := each s List.mem_cons_self
    have others := ih fun t member => each t (List.mem_cons_of_mem s member)
    cases rest with
    | nil => rwa [String.intercalate_singleton]
    | cons t rest =>
      rw [String.intercalate_cons_cons]
      simp only [isValue, String.toList_append, List.all_append, Bool.and_eq_true] at *
      exact ⟨⟨first, between⟩, others⟩

namespace MethodSet

theorem isValueText (s : MethodSet) : Http.isValue s.text = true := by
  refine Http.isValueIntercalate (by decide) fun name member => ?_
  obtain ⟨v, _, rfl⟩ := List.mem_map.mp member
  cases v <;> decide

theorem headerValueOfText (s : MethodSet) :
    Http.HeaderValue.ofText? s.text = some s.headerValue := by
  have legal := isValueText s
  simp [headerValue, Http.HeaderValue.ofText?, legal]

theorem headerValueText (s : MethodSet) : s.headerValue.text = s.text := by
  have made := headerValueOfText s
  unfold Http.HeaderValue.ofText? at made
  split at made
  · rw [← Option.some.inj made]
  · cases made

theorem isEmptyExact {s : MethodSet} : s.isEmpty = true ↔ s = empty := by
  constructor
  · intro none
    cases s
    simpa [isEmpty, empty] using none
  · intro same
    subst same
    rfl

def allowHeader (s : MethodSet) : Headers := ⟨[(.allow, s.headerValue)]⟩

end MethodSet

namespace Chain
open Route (Table)
variable {σ : Type}

def answerTo : Failure → Response
  | .http e => e.response
  | .other _ => (HttpError.ofStatus .internalServerError).response

/- The response that a pipeline makes of what its chain came to. -/
def Outcome.rendered (out : Outcome σ) : Response :=
  match out.result with
  | .ok none => out.context.response
  | .ok (some body) => (out.context.claimFound.setBody body).response
  | .error failure => answerTo failure

theorem dispatchRenders (p : Pipeline σ) (request : Request) (notes : σ) :
    (p.dispatch request notes).1 = ((Next.ofChain p.chain).run { request, notes }).rendered := by
  unfold Pipeline.dispatch Pipeline.handle Outcome.rendered
  rcases (Next.ofChain p.chain).run { request, notes } with ⟨failure | value, ctx⟩
  · cases failure <;> rfl
  · cases value with
    | none => rfl
    | some body =>
      simp only [Context.claimFound, Context.emit]
      by_cases unset : ctx.response.status = .notFound
      · simp only [unset]
        rfl
      · simp only [unset]
        rfl

def Outcome.answer (out : Outcome σ) : Response :=
  match out.result with
  | .ok _ => out.context.response
  | .error failure => answerTo failure

theorem dispatchAnswers {p : Pipeline σ} {request : Request} {notes : σ} {out : Outcome σ}
    (ran : (Next.ofChain p.chain).run { request, notes } = out)
    (bodiless : ∀ body, out.result ≠ .ok (some body)) :
    (p.dispatch request notes).1 = out.answer := by
  rw [dispatchRenders, ran]
  unfold Outcome.rendered Outcome.answer
  cases result : out.result with
  | error failure => rfl
  | ok value =>
    cases value with
    | none => rfl
    | some body => exact absurd result (bodiless body)

theorem respondWrites (ctx : Context σ) (status : Status) (allow : MethodSet) :
    Negotiation.respond ctx status allow =
      ⟨.ok none, { ctx with response := { ctx.response with
        status, headers := ctx.response.headers.insert .allow allow.headerValue } }⟩ := by
  have made := MethodSet.headerValueOfText allow
  simp only [MethodSet.text] at made
  simp [Negotiation.respond, Response.set?, made, Context.setStatus]

def NegotiationOptions.implemented (o : NegotiationOptions) : MethodSet := o.methods.getD .all

/- What is answered to a method that no route of a path takes. -/
def refusal (o : NegotiationOptions) (m : Method) (allowed : MethodSet) : Response :=
  if o.implemented.contains m = false then
    if o.throws = false then ⟨.notImplemented, allowed.allowHeader, .empty⟩
    else match o.factory with
      | some failure => answerTo failure
      | none => ⟨.notImplemented, .empty, .ofText "Not Implemented"⟩
  else if allowed = .empty then ⟨.notFound, .empty, .empty⟩
  else if m = .ofVerb .options then ⟨.ok, allowed.allowHeader, .empty⟩
  else if o.throws = false then ⟨.methodNotAllowed, allowed.allowHeader, .empty⟩
  else match o.factory with
    | some failure => answerTo failure
    | none => ⟨.methodNotAllowed, allowed.allowHeader, .ofText "Method Not Allowed"⟩

/- A context in which nothing has been answered yet. -/
structure Fresh (ctx : Context σ) : Prop where
  response : ctx.response = {}
  matched : ctx.matched = none

theorem freshEmit {ctx : Context σ} (fresh : Fresh ctx) (e : Event) : Fresh (ctx.emit e) :=
  ⟨fresh.response, fresh.matched⟩

theorem freshMiss {ctx : Context σ} (fresh : Fresh ctx) (allowed : MethodSet) :
    Fresh (ctx.miss allowed) := by
  simp only [Context.miss]
  split
  · exact freshEmit fresh _
  · exact ⟨fresh.response, fresh.matched⟩

theorem requestAfterMiss (ctx : Context σ) (allowed : MethodSet) :
    (ctx.miss allowed).request = ctx.request := by
  simp only [Context.miss]
  split <;> rfl

theorem allowedAfterMiss {ctx : Context σ} (fresh : Fresh ctx) (unset : ctx.pathMethods = none)
    (allowed : MethodSet) : Negotiation.allowed (ctx.miss allowed) = allowed := by
  have recorded : (ctx.miss allowed).pathMethods.getD .empty = allowed := by
    simp only [Context.miss]
    split
    next empty =>
      rw [MethodSet.isEmptyExact.mp empty]
      simp [Context.emit, unset]
    · rfl
  rw [Negotiation.allowed, (freshMiss fresh allowed).matched]
  exact recorded

/- The outcome is answered with the response, and the chain has returned no body. -/
structure Refuses (out : Outcome σ) (response : Response) : Prop where
  answer : out.answer = response
  bodiless : ∀ body, out.result ≠ .ok (some body)

theorem refusesSilently {ctx : Context σ} (fresh : Fresh ctx) :
    Refuses ⟨.ok none, ctx⟩ ⟨.notFound, .empty, .empty⟩ :=
  ⟨fresh.response, fun _ valued => by cases valued⟩

theorem refusesWriting {ctx : Context σ} (fresh : Fresh ctx) (status : Status)
    (allow : MethodSet) :
    Refuses (Negotiation.respond ctx status allow) ⟨status, allow.allowHeader, .empty⟩ := by
  rw [respondWrites]
  refine ⟨?_, fun _ valued => by cases valued⟩
  simp [Outcome.answer, fresh.response, Headers.insert, Headers.empty, MethodSet.allowHeader]

theorem refusesFailing (o : NegotiationOptions) (fallback : HttpError) (ctx : Context σ) :
    Refuses ⟨.error ((Negotiation.ofOptions o).failure fallback), ctx⟩
      (match o.factory with
      | some failure => answerTo failure
      | none => fallback.response) := by
  refine ⟨?_, fun _ valued => by cases valued⟩
  cases given : o.factory <;>
    simp [Outcome.answer, Negotiation.failure, Negotiation.ofOptions, given, answerTo]

/- Options are answered in a throwing negotiation too. -/
theorem refusesOptions {ctx : Context σ} (fresh : Fresh ctx) (allow : MethodSet) :
    Refuses
      (let out := Negotiation.respond ctx .ok allow
      match out.result with
      | .ok _ => ⟨.ok none, out.context.setBody .empty⟩
      | .error _ => out) ⟨.ok, allow.allowHeader, .empty⟩ := by
  have written := (refusesWriting fresh .ok allow).answer
  rw [respondWrites] at written ⊢
  refine ⟨?_, fun _ valued => by cases valued⟩
  rw [← written]
  simp [Outcome.answer, Context.setBody, fresh.response]

theorem answerRefuses {o : NegotiationOptions} {ctx : Context σ} {allow : MethodSet}
    (fresh : Fresh ctx) (known : Negotiation.allowed ctx = allow)
    (excluded : allow.contains ctx.method = false) :
    Refuses ((Negotiation.ofOptions o).answer ctx) (refusal o ctx.method allow) := by
  have implements : (Negotiation.ofOptions o).implemented = o.implemented := rfl
  have throwing : (Negotiation.ofOptions o).throws = o.throws := rfl
  unfold Negotiation.answer refusal
  simp only [known, implements, throwing, excluded, Http.Method.verbExact,
    MethodSet.isEmptyExact, Bool.not_eq_true']
  cases o.implemented.contains ctx.method with
  | false =>
    cases o.throws with
    | false => exact refusesWriting (freshEmit fresh _) .notImplemented allow
    | true => exact refusesFailing o .notImplemented _
  | true =>
    by_cases empty : allow = .empty
    · simp only [empty]
      exact refusesSilently fresh
    · by_cases asks : ctx.method = .ofVerb .options
      · simp only [empty, asks]
        exact refusesOptions (freshEmit fresh _) allow
      · simp only [empty, asks]
        cases o.throws with
        | false => exact refusesWriting (freshEmit fresh _) .methodNotAllowed allow
        | true => exact refusesFailing o (Negotiation.notAllowedError allow) _

theorem negotiationRefuses {o : NegotiationOptions} {next : Next σ} {ctx ctx' : Context σ}
    {allow : MethodSet} (rest : next.run ctx = ⟨.ok none, ctx'⟩) (fresh : Fresh ctx')
    (known : Negotiation.allowed ctx' = allow) (excluded : allow.contains ctx'.method = false) :
    Refuses ((Negotiation.ofOptions o).middleware next ctx) (refusal o ctx'.method allow) := by
  have untouched : ctx'.response.status = .notFound := by rw [fresh.response]
  simp only [Negotiation.middleware, rest, untouched, if_true]
  exact answerRefuses fresh known excluded

theorem refusalStatus {o : NegotiationOptions} {m : Method} {allowed : MethodSet}
    (implemented : o.implemented.contains m = true) (some : allowed ≠ .empty)
    (own : o.throws = true → o.factory = none) :
    (refusal o m allowed).status = if m = .ofVerb .options then .ok else .methodNotAllowed := by
  unfold refusal
  rw [if_neg (by simp [implemented]), if_neg some]
  by_cases asks : m = .ofVerb .options
  · rw [if_pos asks, if_pos asks]
  · rw [if_neg asks, if_neg asks]
    cases throws : o.throws with
    | false => rfl
    | true => rw [own throws]; rfl

theorem missAnswered (routes : Table (Middleware σ)) (o : NegotiationOptions) (request : Request)
    (notes : σ) (miss : routes.choose? request.method request.path = none) :
    let allowed := routes.allowedFor request.path
    let answer := (Pipeline.dispatch ⟨[dispatchTo routes, (Negotiation.ofOptions o).middleware]⟩
      request notes).1
    allowed.contains request.method = false ∧
      answer = refusal o request.method allowed ∧
      allowed.headerValue.text = ", ".intercalate allowed.names ∧
      ∀ r ∈ routes, r.pattern.isMatch request.path = true → r.methods ≠ .empty →
        o.implemented.contains request.method = true → (o.throws = true → o.factory = none) →
        answer.status = if request.method = .ofVerb .options then .ok else .methodNotAllowed := by
  intro allowed answer
  have excluded : allowed.contains request.method = false := Table.missExcludes miss
  have ran : (Next.ofChain [dispatchTo routes, (Negotiation.ofOptions o).middleware]).run
      { request, notes } = (Negotiation.ofOptions o).middleware Next.done
        (Context.miss { request, notes } allowed) := by
    rw [Next.runOfChainCons]
    simp only [dispatchTo, Context.method, Context.path, miss]
    rw [Next.runOfChainCons, Next.ofChainNil]
  have fresh : Fresh ({ request, notes } : Context σ) := ⟨rfl, rfl⟩
  have method : (Context.miss ({ request, notes } : Context σ) allowed).method =
      request.method := by
    rw [Context.method, requestAfterMiss]
  have refuses : Refuses ((Negotiation.ofOptions o).middleware Next.done
      (Context.miss ({ request, notes } : Context σ) allowed)) _ :=
    negotiationRefuses rfl (freshMiss fresh allowed) (allowedAfterMiss fresh rfl allowed)
      (by rw [method]; exact excluded)
  rw [method] at refuses
  have answered : answer = refusal o request.method allowed := by
    rw [← refuses.answer]
    exact dispatchAnswers ran refuses.bodiless
  refine ⟨excluded, answered, MethodSet.headerValueText allowed, ?_⟩
  intro r member hit some implemented own
  rw [answered]
  refine refusalStatus implemented (fun none => some ?_) own
  exact Table.allowedEmpty.mp none r member hit

theorem deleteRefused : ∃ p, Route.PathPattern.compile "/a" = .ok p ∧
    let routes : Table (Middleware Unit) := [⟨p, .ofVerbs [.get], fun next ctx => next.run ctx⟩]
    let request : Request := { method := .ofVerb .delete, uri := ⟨"/a", none⟩ }
    routes.choose? request.method request.path = none ∧
      (Pipeline.dispatch ⟨[dispatchTo routes, (Negotiation.ofOptions {}).middleware]⟩
        request ()).1.status = .methodNotAllowed := by
  refine ⟨_, rfl, ?_⟩
  intro routes request
  have miss : routes.choose? request.method request.path = none := by decide +kernel
  refine ⟨miss, ?_⟩
  refine (missAnswered routes {} request () miss).2.2.2 _ List.mem_cons_self ?_ ?_ ?_ ?_
  · decide +kernel
  · decide
  · decide
  · intro throws
    cases throws

end Chain
end Signpost
