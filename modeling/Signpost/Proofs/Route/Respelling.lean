import Signpost.Proofs.Route.Compilation

/-! A slug is written behind a colon or in braces. Which of the two a template takes makes no
difference to what it is compiled to, nor to what is wrong with it. -/
namespace Signpost.Route
open List (Forall₂)
open Segment (Spells defaultBody)

/- The ways to write a slug with a body of its own. -/
inductive Bodied (name body : List Char) : List Char → Prop
  | colon : Bodied name body (':' :: (name ++ '(' :: (body ++ [')'])))
  | braces : Bodied name body ('\x7b' :: (name ++ ':' :: body ++ ['\x7d']))

/- The ways to write a slug without one. -/
inductive Bare (name : List Char) : List Char → Prop
  | colon : Bare name (':' :: name)
  | braces : Bare name ('\x7b' :: (name ++ ['\x7d']))
  | emptyBody : Bare name ('\x7b' :: (name ++ [':'] ++ ['\x7d']))

/- The segment is kept, or it is a slug in another spelling. A bare name may hold a parenthesis,
if the colon does not make a body of what is behind it. -/
inductive Respelled : List Char → List Char → Prop
  | kept (piece) : Respelled piece piece
  | bodied {name body one other} (closed : '(' ∉ name) (free : ':' ∉ name) (filled : body ≠ [])
      (first : Bodied name body one) (second : Bodied name body other) : Respelled one other
  | bare {name one other} (bodiless : ¬ ('(' ∈ name ∧ name.getLast? = some ')'))
      (free : ':' ∉ name) (first : Bare name one) (second : Bare name other) : Respelled one other

/- A reason to refuse a template, without the template. -/
inductive Refusal
  | missingSlash
  | segment (fault : SegmentFault)
  | invalidRegex (fault : Regex.Fault)

def Refusal.inPath (template : String) : Refusal → PatternError
  | missingSlash => .missingSlash template
  | segment fault => fault.inPath template
  | invalidRegex fault => .invalidRegex template fault

/- Two patterns that differ in their templates at most. -/
structure Alike (p q : PathPattern) : Prop where
  regex : p.regex = q.regex
  names : p.slugNames = q.slugNames
  positions : p.slugPositions = q.slugPositions
  matching (path : String) : p.isMatch path = q.isMatch path
  capturing (path : String) : p.captures? path = q.captures? path

theorem alikeOfParts {p q : PathPattern} (regex : p.regex = q.regex)
    (names : p.slugNames = q.slugNames) (positions : p.slugPositions = q.slugPositions) :
    Alike p q where
  regex := regex
  names := names
  positions := positions
  matching path := by simp only [PathPattern.isMatch, regex]
  capturing path := by simp only [PathPattern.captures?, regex]

theorem bodiedSpells {name body piece : List Char} (closed : '(' ∉ name) (free : ':' ∉ name)
    (filled : body ≠ []) (written : Bodied name body piece) : Spells piece name body := by
  cases written with
  | colon => exact .colonBody closed
  | braces => exact .bracesBody free filled

theorem bareSpells {name piece : List Char}
    (bodiless : ¬ ('(' ∈ name ∧ name.getLast? = some ')')) (free : ':' ∉ name)
    (written : Bare name piece) : Spells piece name defaultBody := by
  cases written with
  | colon => exact .colon bodiless
  | braces => exact .braces free
  | emptyBody => exact .emptyBody free

namespace Respelled

theorem symm {one other : List Char} (respelled : Respelled one other) :
    Respelled other one := by
  cases respelled with
  | kept => exact .kept one
  | bodied closed free filled first second => exact .bodied closed free filled second first
  | bare bodiless free first second => exact .bare bodiless free second first

theorem alike {one other : List Char} (respelled : Respelled one other) :
    one = other ∨ ∃ name body, Spells one name body ∧ Spells other name body := by
  cases respelled with
  | kept => exact .inl rfl
  | bodied closed free filled first second =>
    exact .inr ⟨_, _, bodiedSpells closed free filled first, bodiedSpells closed free filled second⟩
  | bare bodiless free first second =>
    exact .inr ⟨_, _, bareSpells bodiless free first, bareSpells bodiless free second⟩

theorem read {one other : List Char} (respelled : Respelled one other) :
    Segment.read one = Segment.read other := by
  rcases respelled.alike with rfl | ⟨name, body, first, second⟩
  · rfl
  · rw [Segment.readSlug first, Segment.readSlug second]

theorem ofEmpty {piece : List Char} (respelled : Respelled [] piece) : piece = [] := by
  rcases respelled.alike with rfl | ⟨name, body, first, _⟩
  · rfl
  · cases first

end Respelled

section
variable {one other rest : List Char}

theorem readRespelled {pieces others : List (List Char)}
    (respelled : Forall₂ Respelled pieces others) :
    pieces.mapM Segment.read = others.mapM Segment.read := by
  induction respelled with
  | nil => rfl
  | cons first _ ih => rw [List.mapM_cons, List.mapM_cons, first.read, ih]

/- The text before the leading slash is an empty piece, which no slug is written as. -/
theorem slashRespelled
    (respelled : Forall₂ Respelled (Text.fields '/' ('/' :: rest)) (Text.fields '/' other)) :
    ∃ rest', other = '/' :: rest' ∧
      Forall₂ Respelled (Text.fields '/' rest) (Text.fields '/' rest') := by
  have cut (cs : List Char) : Text.fields '/' ('/' :: cs) = [] :: Text.fields '/' cs := if_pos rfl
  rw [cut] at respelled
  obtain ⟨piece, pieces, first, others, split⟩ := List.forall₂_cons_left_iff.mp respelled
  cases first.ofEmpty
  have filled : pieces ≠ [] := by
    intro none
    rw [none, List.forall₂_nil_right_iff] at others
    exact Text.fieldsNonempty '/' rest others
  obtain ⟨rest', slash, same⟩ := Text.fieldsLeading split filled
  exact ⟨rest', slash, same ▸ others⟩

theorem slashKept (respelled : Forall₂ Respelled (Text.fields '/' one) (Text.fields '/' other))
    (slash : one.head? = some '/') : other.head? = some '/' := by
  obtain ⟨rest, rfl⟩ := List.head?_eq_some_iff.mp slash
  obtain ⟨rest', rfl, _⟩ := slashRespelled respelled
  rfl

end

namespace PathPattern

theorem respelledAlike {one other : String}
    (respelled : Forall₂ Respelled (Text.fields '/' one.toList) (Text.fields '/' other.toList)) :
    (∃ p q, compile one = .ok p ∧ compile other = .ok q ∧ Alike p q) ∨
      ∃ refusal : Refusal, compile one = .error (refusal.inPath one) ∧
        compile other = .error (refusal.inPath other) := by
  by_cases head : one.toList.head? = some '/'
  · obtain ⟨rest, slash⟩ := List.head?_eq_some_iff.mp head
    rw [slash] at respelled
    obtain ⟨rest', slash', pieces⟩ := slashRespelled respelled
    have alike : readSegments rest = readSegments rest' := readRespelled pieces
    simp only [compile, slash, slash', alike]
    cases readSegments rest' with
    | error fault => exact .inr ⟨.segment fault, rfl, rfl⟩
    | ok segments =>
      dsimp only
      cases Regex.compile (String.ofList (assemble segments)) with
      | error fault => exact .inr ⟨.invalidRegex fault, rfl, rfl⟩
      | ok regex => exact .inl ⟨_, _, rfl, rfl, alikeOfParts rfl rfl rfl⟩
  · have back := respelled.flip.imp fun _ _ => Respelled.symm
    have head' : other.toList.head? ≠ some '/' := fun slash => head (slashKept back slash)
    exact .inr ⟨.missingSlash, compileBare head, compileBare head'⟩

/- The body of the first slug holds what either spelling is cut at, the second slug has none. -/
theorem bracesAlike :
    Forall₂ Respelled (Text.fields '/' "/:kind((?:a|b):\\\x7d)/\x7bx:\x7d/z".toList)
      (Text.fields '/' "/\x7bkind:(?:a|b):\\\x7d\x7d/:x/z".toList) ∧
    ∃ p q, compile "/:kind((?:a|b):\\\x7d)/\x7bx:\x7d/z" = .ok p ∧
      compile "/\x7bkind:(?:a|b):\\\x7d\x7d/:x/z" = .ok q ∧ Alike p q := by
  have kind : Respelled ":kind((?:a|b):\\\x7d)".toList "\x7bkind:(?:a|b):\\\x7d\x7d".toList :=
    .bodied (show '(' ∉ "kind".toList by decide) (by decide)
      (show "(?:a|b):\\\x7d".toList ≠ [] by decide) .colon .braces
  have x : Respelled "\x7bx:\x7d".toList ":x".toList :=
    .bare (show ¬ ('(' ∈ "x".toList ∧ "x".toList.getLast? = some ')') by decide) (by decide)
      .emptyBody .colon
  have respelled : Forall₂ Respelled
      (Text.fields '/' "/:kind((?:a|b):\\\x7d)/\x7bx:\x7d/z".toList)
      (Text.fields '/' "/\x7bkind:(?:a|b):\\\x7d\x7d/:x/z".toList) :=
    .cons (.kept []) (.cons kind (.cons x (.cons (.kept ['z']) .nil)))
  refine ⟨respelled, (respelledAlike respelled).resolve_right fun refused => ?_⟩
  obtain ⟨refusal, refused, _⟩ := refused
  have accepted : (compile "/:kind((?:a|b):\\\x7d)/\x7bx:\x7d/z").isOk = true := by decide +kernel
  rw [refused] at accepted
  cases accepted

end PathPattern
end Signpost.Route
