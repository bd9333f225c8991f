import Signpost.Http.Header
import Signpost.Http.Method
import Signpost.Text.Fields
import Signpost.Unicode.CharSet

/-! Sets of known methods, one bit each. They list in the order of `Verb.all`. -/
namespace Signpost
open Http (HeaderValue Method Verb)

structure MethodSet where
  bits : BitVec 9
  deriving DecidableEq, Repr

structure UnsupportedMethod where
  name : String
  deriving DecidableEq, Repr

def UnsupportedMethod.message (e : UnsupportedMethod) : String :=
  "unsupported method \"" ++ e.name ++ "\""

namespace MethodSet

def empty : MethodSet := ⟨0⟩

def has (s : MethodSet) (v : Verb) : Bool := s.bits.getLsbD v.index

def insertVerb (s : MethodSet) (v : Verb) : MethodSet := ⟨s.bits ||| 1#9 <<< v.index.val⟩

def union (s t : MethodSet) : MethodSet := ⟨s.bits ||| t.bits⟩

def isEmpty (s : MethodSet) : Bool := s.bits == 0

def size (s : MethodSet) : Nat := (List.range 9).countP s.bits.getLsbD

def verbs (s : MethodSet) : List Verb := Verb.all.filter s.has

def names (s : MethodSet) : List String := s.verbs.map Verb.name

def text (s : MethodSet) : String := ", ".intercalate s.names

/- The text as a header value; names are tokens, so the default is never needed. -/
def headerValue (s : MethodSet) : HeaderValue := (HeaderValue.ofText? s.text).getD ⟨"", by decide⟩

/- Methods that are not known are in no set. -/
def contains (s : MethodSet) (m : Method) : Bool := m.verb?.any s.has

/- Adds a known method; the flag is false for any other, which changes nothing. -/
def insert (s : MethodSet) (m : Method) : MethodSet × Bool :=
  match m.verb? with
  | some v => (s.insertVerb v, true)
  | none => (s, false)

@[simp]
theorem hasEmpty (v : Verb) : empty.has v = false := by cases v <;> rfl

@[simp]
theorem hasInsertVerb (s : MethodSet) (v w : Verb) :
    (s.insertVerb v).has w = (s.has w || w == v) := by
  simp only [insertVerb, has, BitVec.getLsbD_or]
  congr 1
  cases v <;> cases w <;> decide

@[simp]
theorem hasUnion (s t : MethodSet) (v : Verb) : (s.union t).has v = (s.has v || t.has v) := by
  simp [union, has]

theorem hasExt {s t : MethodSet} (h : ∀ v, s.has v = t.has v) : s = t := by
  obtain ⟨s⟩ := s
  obtain ⟨t⟩ := t
  congr
  apply BitVec.eq_of_getLsbD_eq
  intro i hi
  match i, hi with
  | 0, _ => exact h .get
  | 1, _ => exact h .head
  | 2, _ => exact h .post
  | 3, _ => exact h .put
  | 4, _ => exact h .delete
  | 5, _ => exact h .connect
  | 6, _ => exact h .options
  | 7, _ => exact h .trace
  | 8, _ => exact h .patch
  | i + 9, hi => omega

theorem memVerbs {s : MethodSet} {v : Verb} : v ∈ s.verbs ↔ s.has v = true := by
  simp [verbs, Verb.memAll]

def ofVerbs (vs : List Verb) : MethodSet := vs.foldl insertVerb empty

def all : MethodSet := ofVerbs Verb.all

def ofMethods (ms : List Method) : MethodSet := ms.foldl (fun s m => (s.insert m).1) empty

def ofKnown : List Method → Except UnsupportedMethod MethodSet
  | [] => .ok empty
  | m :: ms =>
    match m.verb? with
    | some v => do .ok ((← ofKnown ms).insertVerb v)
    | none => .error ⟨m.name⟩

def trimmed (cs : List Char) : List Char :=
  ((cs.dropWhile Unicode.isBlank).reverse.dropWhile Unicode.isBlank).reverse

/- A piece of a list of names, as it is looked up: without blanks around it, in capitals. -/
def canonicalName (piece : List Char) : String :=
  String.ofList ((trimmed piece).map Char.toUpper)

def ofNames : List String → Except UnsupportedMethod MethodSet
  | [] => .ok empty
  | name :: names =>
    match Verb.ofName? name with
    | some v => do .ok ((← ofNames names).insertVerb v)
    | none => .error ⟨name⟩

def parse (s : String) : Except UnsupportedMethod MethodSet :=
  ofNames ((Text.fields '|' s.toList).map canonicalName)

def parseAll : List String → Except UnsupportedMethod MethodSet
  | [] => .ok empty
  | s :: rest => do
    let first ← parse s
    let others ← parseAll rest
    .ok (first.union others)

end MethodSet

inductive MethodSpelling
  | text (s : String)
  | texts (ss : List String)
  | known (ms : List Method)
  | collected (ms : List Method)
  deriving DecidableEq, Repr

def MethodSpelling.toSet : MethodSpelling → Except UnsupportedMethod MethodSet
  | text s => MethodSet.parse s
  | texts ss => MethodSet.parseAll ss
  | known ms => MethodSet.ofKnown ms
  | collected ms => .ok (.ofMethods ms)

end Signpost
