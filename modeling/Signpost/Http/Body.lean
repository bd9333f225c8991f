/-! Response bodies of at most one chunk. -/
namespace Signpost.Http

abbrev Bytes := List UInt8

theorem utf8Bytes (s : String) :
    s.toUTF8.data.toList = s.toList.flatMap String.utf8EncodeChar := by
  rw [String.toUTF8_eq_toByteArray, ← String.utf8Encode_toList, List.utf8Encode,
    List.toList_data_toByteArray]

/- An empty chunk is no chunk. -/
structure Body where
  chunk? : Option Bytes
  nonempty : chunk? ≠ some [] := by simp
  deriving DecidableEq, Repr

namespace Body

def empty : Body := { chunk? := none }

def ofBytes (bytes : Bytes) : Body :=
  match bytes with
  | [] => empty
  | b :: rest => { chunk? := some (b :: rest) }

def ofText (s : String) : Body := ofBytes s.toUTF8.data.toList

def ofOption (bytes : Option Bytes) : Body := (bytes.map ofBytes).getD empty

/- What a body can be made from. -/
inductive Source
  | bytes (content : Bytes)
  | text (content : String)
  | fixedText (content : String)
  | unit
  | optional (content : Option Bytes)
  | once (content : Bytes)
  | empty
  | default
  deriving DecidableEq, Repr

def ofSource : Source → Body
  | .bytes content | .once content => ofBytes content
  | .text content | .fixedText content => ofText content
  | .optional content => ofOption content
  | .unit | .empty | .default => empty

def content (b : Body) : Bytes := b.chunk?.getD []

def isEmpty (b : Body) : Bool := b.chunk?.isNone

def size (b : Body) : Nat :=
  match b.chunk? with
  | none => 0
  | some bytes => bytes.length

def atEnd (b : Body) : Bool := b.chunk?.isNone

def nextFrame (b : Body) : Option Bytes × Body := (b.chunk?, empty)

/- The frames of `n` polls, and the body that they leave. -/
def polled : Body → Nat → List Bytes × Body
  | b, 0 => ([], b)
  | b, n + 1 =>
    let (frame, rest) := b.nextFrame
    let (frames, left) := rest.polled n
    (frame.toList ++ frames, left)

/- The states of the body while it is read to its end, each with the frame taken there. -/
def reads (b : Body) : List (Body × Option Bytes) :=
  match b.nextFrame with
  | (none, _) => [(b, none)]
  | (some frame, rest) => [(b, some frame), (rest, none)]

@[simp]
theorem contentOfBytes (bytes : Bytes) : (ofBytes bytes).content = bytes := by
  cases bytes <;> rfl

@[ext]
theorem contentExt {b c : Body} (h : b.content = c.content) : b = c := by
  obtain ⟨b, hb⟩ := b
  obtain ⟨c, hc⟩ := c
  cases b with
  | none =>
    cases c with
    | none => rfl
    | some c => exact absurd (congrArg some h.symm) hc
  | some b =>
    cases c with
    | none => exact absurd (congrArg some h) hb
    | some c => cases h; rfl

end Body
end Signpost.Http
