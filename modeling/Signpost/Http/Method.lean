import Signpost.Http.Token

/-! Request methods. Any token is a method; nine of them are known and take part in
routing. -/
namespace Signpost.Http

inductive Verb
  | get | head | post | put | delete | connect | options | trace | patch
  deriving DecidableEq, Repr

namespace Verb

/- The order in which methods are listed. -/
def all : List Verb := [get, head, post, put, delete, connect, options, trace, patch]

def name : Verb → String
  | get => "GET"
  | head => "HEAD"
  | post => "POST"
  | put => "PUT"
  | delete => "DELETE"
  | connect => "CONNECT"
  | options => "OPTIONS"
  | trace => "TRACE"
  | patch => "PATCH"

def index : Verb → Fin 9
  | get => 0
  | head => 1
  | post => 2
  | put => 3
  | delete => 4
  | connect => 5
  | options => 6
  | trace => 7
  | patch => 8

def ofName? (name : String) : Option Verb := all.find? fun v => v.name == name

theorem memAll (v : Verb) : v ∈ all := by cases v <;> decide

theorem nameInjective {v w : Verb} (h : v.name = w.name) : v = w := by
  cases v <;> cases w <;> first | rfl | exact absurd h (by decide)

theorem ofNameExact {name : String} {v : Verb} : ofName? name = some v ↔ v.name = name := by
  constructor
  · intro h
    simpa using List.find?_some h
  · rintro rfl
    cases v <;> decide

theorem nameIsToken (v : Verb) : isToken v.name = true := by cases v <;> decide

end Verb

structure Method where
  name : String
  token : isToken name = true
  deriving DecidableEq, Repr

namespace Method

def ofName? (name : String) : Option Method :=
  if h : isToken name then some ⟨name, h⟩ else none

def ofVerb (v : Verb) : Method := ⟨v.name, v.nameIsToken⟩

/- The known method of that exact name. Names are case-sensitive. -/
def verb? (m : Method) : Option Verb := Verb.ofName? m.name

@[simp]
theorem verbOfVerb (v : Verb) : (ofVerb v).verb? = some v := Verb.ofNameExact.mpr rfl

theorem verbExact {m : Method} {v : Verb} : m.verb? = some v ↔ m = ofVerb v := by
  rw [verb?, Verb.ofNameExact]
  constructor
  · intro h; cases m; cases h; rfl
  · rintro rfl; rfl

end Method
end Signpost.Http
