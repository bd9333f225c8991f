import Mathlib.Data.List.Induction
import Signpost.Proofs.Chain.Refusal

/-! Responses of a pipeline. What the chain comes to decides the form: a body, no body, a failure
with a status of its own, or any other failure. Of a failed run nothing but the failure is seen. -/
namespace Signpost
open Http (Body HeaderName HeaderValue HttpError Request Response Status)

namespace Http

/- What is done to an error after it was made from a status. -/
inductive ErrorChange
  | text (text : String)
  | header (name : HeaderName) (value : HeaderValue)
  deriving DecidableEq, Repr

namespace ErrorChange

def text? : ErrorChange → Option String
  | text s => some s
  | header _ _ => none

def value? (name : HeaderName) : ErrorChange → Option HeaderValue
  | text _ => none
  | header other value => if other = name then some value else none

end ErrorChange

namespace HttpError

def change (e : HttpError) : ErrorChange → HttpError
  | .text s => e.withText s
  | .header name value => e.withHeader name value

def built (status : Status) (changes : List ErrorChange) : HttpError :=
  changes.foldl change (ofStatus status)

theorem builtConcat (status : Status) (changes : List ErrorChange) (c : ErrorChange) :
    built status (changes ++ [c]) = (built status changes).change c := by
  rw [built, List.foldl_append]
  rfl

theorem builtStatus (status : Status) (changes : List ErrorChange) :
    (built status changes).status = status := by
  induction changes using List.reverseRecOn with
  | nil => rfl
  | append_singleton changes c ih =>
    rw [builtConcat]
    cases c <;> exact ih

/- The text that was given last, or the reason of the status. -/
theorem builtText (status : Status) (changes : List ErrorChange) :
    (built status changes).text =
      (changes.filterMap ErrorChange.text?).getLast?.getD (status.reason?.getD "") := by
  induction changes using List.reverseRecOn with
  | nil => rfl
  | append_singleton changes c ih =>
    rw [builtConcat, List.filterMap_append]
    cases c with
    | text s => simp [change, withText, ErrorChange.text?]
    | header name value => simpa [change, withHeader, ErrorChange.text?] using ih

theorem builtValues (status : Status) (changes : List ErrorChange) (name : HeaderName) :
    (built status changes).headers.values name =
      (changes.filterMap (ErrorChange.value? name)).getLast?.toList := by
  induction changes using List.reverseRecOn with
  | nil => rfl
  | append_singleton changes c ih =>
    rw [builtConcat, List.filterMap_append]
    cases c with
    | text s => simpa [change, withText, ErrorChange.value?] using ih
    | header other value =>
      rw [change, withHeader]
      by_cases same : other = name
      · subst same
        rw [Headers.valuesInsertSelf]
        simp [ErrorChange.value?]
      · rw [Headers.valuesInsertOther _ _ (Ne.symm same), ih]
        simp [ErrorChange.value?, same]

end HttpError
end Http

namespace Chain
variable {σ : Type}

/- The forms of a response. -/
inductive Renders : Outcome σ → Response → Prop
  | body (ctx : Context σ) (body : Body) : Renders ⟨.ok (some body), ctx⟩
      ⟨if ctx.response.status = .notFound then .ok else ctx.response.status,
        ctx.response.headers, body⟩
  | silence (ctx : Context σ) : Renders ⟨.ok none, ctx⟩ ctx.response
  | http (ctx : Context σ) (e : HttpError) :
      Renders ⟨.error (.http e), ctx⟩ ⟨e.status, e.headers, .ofText e.text⟩
  | other (ctx : Context σ) (text : String) : Renders ⟨.error (.other text), ctx⟩
      ⟨.internalServerError, .empty, .ofText "Internal Server Error"⟩

theorem rendersRendered (out : Outcome σ) : Renders out out.rendered := by
  obtain ⟨result, ctx⟩ := out
  cases result with
  | error failure =>
    cases failure with
    | http e => exact .http ctx e
    | other text => exact .other ctx text
  | ok value =>
    cases value with
    | none => exact .silence ctx
    | some body =>
      have form := Renders.body ctx body
      have same : Outcome.rendered ⟨.ok (some body), ctx⟩ =
          ⟨if ctx.response.status = .notFound then .ok else ctx.response.status,
            ctx.response.headers, body⟩ := by
        simp only [Outcome.rendered, Context.claimFound]
        split <;> rfl
      rwa [same]

theorem rendersUnique {out : Outcome σ} {one second : Response} (first : Renders out one)
    (other : Renders out second) : one = second := by
  cases first <;> cases other <;> rfl

theorem failureAnswered {out : Outcome σ} {failure : Http.Failure}
    (failed : out.result = .error failure) : out.rendered = answerTo failure := by
  rw [Outcome.rendered, failed]

theorem dispatchesInForm (chain : List (Middleware σ)) (request : Request) (notes : σ) :
    let out := (Next.ofChain chain).run { request, notes }
    let response := (Pipeline.dispatch ⟨chain⟩ request notes).1
    (∀ other, Renders out other ↔ other = response) ∧
      (∀ status changes, out.result = .error (.http (.built status changes)) →
        response.status = status ∧
          response.body.content = ((changes.filterMap Http.ErrorChange.text?).getLast?.getD
            (status.reason?.getD "")).toUTF8.data.toList ∧
          ∀ name, response.headers.values name =
            (changes.filterMap (Http.ErrorChange.value? name)).getLast?.toList) ∧
      ∀ (τ : Type) (chain' : List (Middleware τ)) (request' : Request) (notes' : τ) failure,
        out.result = .error failure →
        ((Next.ofChain chain').run { request := request', notes := notes' }).result =
          .error failure →
        (Pipeline.dispatch ⟨chain'⟩ request' notes').1 = response := by
  intro out response
  have rendered : response = out.rendered := dispatchRenders ⟨chain⟩ request notes
  refine ⟨fun other => ?_, ?_, ?_⟩
  · rw [rendered]
    exact ⟨fun form => rendersUnique form (rendersRendered out),
      fun same => same ▸ rendersRendered out⟩
  · intro status changes failed
    rw [rendered, failureAnswered failed]
    refine ⟨HttpError.builtStatus status changes, ?_, HttpError.builtValues status changes⟩
    rw [← HttpError.builtText]
    exact Body.contentOfBytes _
  · intro τ chain' request' notes' failure failed failed'
    rw [rendered, failureAnswered failed, dispatchRenders, failureAnswered failed']

end Chain
end Signpost
