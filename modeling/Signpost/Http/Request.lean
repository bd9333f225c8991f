import Signpost.Http.Header
import Signpost.Http.Method
import Signpost.Http.Uri

/-! Requests, with the slugs that a router found in their path. -/
namespace Signpost.Http

/- Named values; no name stands twice. -/
structure Slugs where
  entries : List (String × String)
  deriving DecidableEq, Repr

namespace Slugs

def empty : Slugs := ⟨[]⟩

def insert (s : Slugs) (name value : String) : Slugs :=
  ⟨s.entries.filter (·.1 != name) ++ [(name, value)]⟩

def ofPairs (pairs : List (String × String)) : Slugs :=
  pairs.foldl (fun s p => s.insert p.1 p.2) empty

def get? (s : Slugs) (name : String) : Option String :=
  (s.entries.find? (·.1 == name)).map Prod.snd

def size (s : Slugs) : Nat := s.entries.length

def isEmpty (s : Slugs) : Bool := s.entries.isEmpty

theorem getInsert (s : Slugs) (name value other : String) :
    (s.insert name value).get? other = if name = other then some value else s.get? other := by
  by_cases h : name = other
  · subst h
    have none : (s.entries.filter (·.1 != name)).find? (·.1 == name) = none := by
      rw [List.find?_eq_none]
      intro a ha
      simpa using (List.mem_filter.mp ha).2
    simp [insert, get?, List.find?_append, none]
  · have same : (s.entries.filter (·.1 != name)).find? (·.1 == other)
        = s.entries.find? (·.1 == other) := by
      rw [List.find?_filter]
      congr 1
      funext a
      by_cases ha : a.1 = other <;> simp [ha, Ne.symm h]
    simp [insert, get?, List.find?_append, same, h]

end Slugs

structure Request where
  method : Method
  uri : Uri
  headers : Headers := .empty
  slugs : Slugs := .empty
  deriving DecidableEq, Repr

def Request.path (r : Request) : String := r.uri.path

def readHeaders (h : Headers) : List (String × String) → Except Fault Headers
  | [] => .ok h
  | (name, value) :: rest =>
    match HeaderName.ofText? name with
    | none => .error .headerName
    | some name =>
      match HeaderValue.ofText? value with
      | none => .error .headerValue
      | some value => readHeaders (h.append name value) rest

/- A request from its parts, which are checked in order. -/
def Request.read (method uri : String) (headers : List (String × String)) :
    Except Fault Request :=
  match Method.ofName? method with
  | none => .error .method
  | some method =>
    match Uri.parse? uri with
    | none => .error .uri
    | some uri =>
      match readHeaders .empty headers with
      | .ok headers => .ok { method, uri, headers }
      | .error fault => .error fault

def Request.version : String := "HTTP/1.1"

end Signpost.Http
