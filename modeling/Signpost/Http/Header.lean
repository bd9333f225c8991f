import Signpost.Http.Token

/-! Header fields. A name is a token in lower case and may have several values, which keep
the order in which they were added. -/
namespace Signpost.Http

structure HeaderName where
  text : String
  deriving DecidableEq, Repr

/- Names compare without regard to case. -/
def HeaderName.ofText? (s : String) : Option HeaderName :=
  if isToken s then some ⟨String.ofList (s.toList.map Char.toLower)⟩ else none

def HeaderName.allow : HeaderName := ⟨"allow"⟩

/- Tabs and all characters that are no controls. -/
def isValueChar (c : Char) : Bool := c == '\t' || (32 ≤ c.toNat && c.toNat != 127)

def isValue (s : String) : Bool := s.toList.all isValueChar

structure HeaderValue where
  text : String
  legal : isValue text = true
  deriving DecidableEq, Repr

def HeaderValue.ofText? (s : String) : Option HeaderValue :=
  if h : isValue s then some ⟨s, h⟩ else none

structure Headers where
  entries : List (HeaderName × HeaderValue)
  deriving DecidableEq, Repr

namespace Headers

def empty : Headers := ⟨[]⟩

def values (h : Headers) (name : HeaderName) : List HeaderValue :=
  (h.entries.filter (·.1 == name)).map Prod.snd

def names (h : Headers) : List HeaderName := (h.entries.map Prod.fst).eraseDups

def append (h : Headers) (name : HeaderName) (value : HeaderValue) : Headers :=
  ⟨h.entries ++ [(name, value)]⟩

def insert (h : Headers) (name : HeaderName) (value : HeaderValue) : Headers :=
  ⟨h.entries.filter (·.1 != name) ++ [(name, value)]⟩

theorem valuesInsertSelf (h : Headers) (name : HeaderName) (value : HeaderValue) :
    (h.insert name value).values name = [value] := by
  simp [insert, values, List.filter_filter]

theorem valuesInsertOther (h : Headers) {name other : HeaderName} (value : HeaderValue)
    (ne : other ≠ name) : (h.insert name value).values other = h.values other := by
  have : (name == other) = false := by simpa using fun e => ne e.symm
  simp only [insert, values, List.filter_append, List.filter_filter, List.filter_cons, this,
    List.filter_nil, List.append_nil, Bool.false_eq_true, if_false]
  congr 1
  apply List.filter_congr
  rintro ⟨n, v⟩ -
  by_cases h : n = other <;> simp [h, ne]

end Headers
end Signpost.Http
