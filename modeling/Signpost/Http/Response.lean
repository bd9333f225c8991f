import Signpost.Http.Body
import Signpost.Http.Header
import Signpost.Http.Status

/-! Responses, and the failures that handlers end in. -/
namespace Signpost.Http

/- A response starts as not found. -/
structure Response where
  status : Status := .notFound
  headers : Headers := .empty
  body : Body := .empty
  deriving DecidableEq, Repr

def Response.set? (r : Response) (name : HeaderName) (values : List String) : Option Response :=
  (HeaderValue.ofText? (", ".intercalate values)).map fun value =>
    { r with headers := r.headers.insert name value }

def badHeaderValue : String := "failed to parse header value"

structure HttpError where
  status : Status
  text : String
  headers : Headers := .empty
  deriving DecidableEq, Repr

namespace HttpError

def ofStatus (status : Status) : HttpError := { status, text := status.reason?.getD "" }

def notImplemented : HttpError := ofStatus .notImplemented

def methodNotAllowed : HttpError := ofStatus .methodNotAllowed

def withText (e : HttpError) (text : String) : HttpError := { e with text }

/- A header of an error has one value, the one given last. -/
def withHeader (e : HttpError) (name : HeaderName) (value : HeaderValue) : HttpError :=
  { e with headers := e.headers.insert name value }

def message (e : HttpError) : String := e.status.line ++ ": " ++ e.text

def response (e : HttpError) : Response :=
  { status := e.status, headers := e.headers, body := .ofText e.text }

end HttpError

inductive Failure
  | http (e : HttpError)
  | other (text : String)
  deriving DecidableEq, Repr

def Failure.message : Failure → String
  | http e => e.message
  | other text => text

structure ErrorSpec where
  status : Nat
  text : Option String
  headers : List (String × String)
  deriving DecidableEq, Repr

def addHeaders (e : HttpError) : List (String × String) → Except Fault HttpError
  | [] => .ok e
  | (name, value) :: rest =>
    match HeaderName.ofText? name with
    | none => .error .headerName
    | some name =>
      match HeaderValue.ofText? value with
      | none => .error .headerValue
      | some value => addHeaders (e.withHeader name value) rest

def ErrorSpec.error (s : ErrorSpec) : Except Fault HttpError :=
  match Status.ofNat? s.status with
  | none => .error .status
  | some status =>
    let e := HttpError.ofStatus status
    addHeaders (match s.text with
      | none => e
      | some text => e.withText text) s.headers

end Signpost.Http
