import Mathlib.Data.List.Basic
import Mathlib.Data.List.TakeWhile
import Signpost.Text.Fields

/-! Cutting a text that was put together from pieces free of the separator gives the pieces
back. -/
namespace Signpost.Text

theorem fieldsAlone {sep : Char} {piece : List Char} (free : sep ∉ piece) :
    fields sep piece = [piece] := by
  induction piece with
  | nil => rfl
  | cons c cs ih =>
    rw [List.mem_cons, not_or] at free
    rw [fields, if_neg (Ne.symm free.1), ih free.2]

theorem fieldsJoined (sep : Char) (front back : List Char) :
    fields sep (front ++ sep :: back) = fields sep front ++ fields sep back := by
  induction front with
  | nil => simp [fields]
  | cons c cs ih =>
    rw [List.cons_append, fields, fields, ih]
    by_cases same : c = sep
    · rw [if_pos same, if_pos same, List.cons_append]
    · rw [if_neg same, if_neg same]
      cases first : fields sep cs with
      | nil => exact absurd first (fieldsNonempty sep cs)
      | cons piece rest => rfl

theorem fieldsFirst {sep : Char} {piece rest : List Char} (free : sep ∉ piece) :
    fields sep (piece ++ sep :: rest) = piece :: fields sep rest := by
  rw [fieldsJoined, fieldsAlone free, List.singleton_append]

theorem fieldsLeading {sep : Char} {text : List Char} {pieces : List (List Char)}
    (cut : fields sep text = [] :: pieces) (filled : pieces ≠ []) :
    ∃ rest, text = sep :: rest ∧ fields sep rest = pieces := by
  cases text with
  | nil =>
    cases cut
    exact absurd rfl filled
  | cons c cs =>
    rw [fields] at cut
    split at cut
    next same =>
      subst same
      cases cut
      exact ⟨cs, rfl, rfl⟩
    · split at cut <;> cases cut

/- The pieces may hold the separator themselves. -/
theorem fieldsPieces {sep : Char} {pieces : List (List Char)} (filled : pieces ≠ []) :
    fields sep ([sep].intercalate pieces) = pieces.flatMap (fields sep) := by
  induction pieces with
  | nil => exact absurd rfl filled
  | cons piece rest ih =>
    cases rest with
    | nil => rw [List.intercalate_singleton, List.flatMap_singleton]
    | cons next rest =>
      rw [List.intercalate_cons_cons, List.append_assoc, List.singleton_append, fieldsJoined,
        ih (List.cons_ne_nil _ _)]
      rfl

theorem fieldsIntercalate {sep : Char} {pieces : List (List Char)} (filled : pieces ≠ [])
    (free : ∀ piece ∈ pieces, sep ∉ piece) : fields sep ([sep].intercalate pieces) = pieces := by
  rw [fieldsPieces filled, List.flatMap_congr fun piece member => fieldsAlone (free piece member),
    List.flatMap_singleton']

theorem consIntercalate {sep : Char} {pieces : List (List Char)} (filled : pieces ≠ []) :
    sep :: [sep].intercalate pieces = pieces.flatMap (sep :: ·) := by
  induction pieces with
  | nil => exact absurd rfl filled
  | cons piece rest ih =>
    cases rest with
    | nil => simp
    | cons next rest =>
      rw [List.intercalate_cons_cons, List.flatMap_cons, ← ih (List.cons_ne_nil _ _)]
      simp

theorem splitMissing {mark : Char} {text : List Char} (free : mark ∉ text) :
    splitAtFirst [mark] text = none := by
  induction text with
  | nil => rfl
  | cons c cs ih =>
    rw [List.mem_cons, not_or] at free
    have other : (mark == c) = false := by simpa using free.1
    simp [splitAtFirst, List.isPrefixOf, other, ih free.2]

theorem splitFirst {mark : Char} {before after : List Char} (free : mark ∉ before) :
    splitAtFirst [mark] (before ++ mark :: after) = some (before, after) := by
  induction before with
  | nil => simp [splitAtFirst, List.isPrefixOf]
  | cons c cs ih =>
    rw [List.mem_cons, not_or] at free
    have other : (mark == c) = false := by simpa using free.1
    simp [splitAtFirst, List.isPrefixOf, other, ih free.2]

theorem splitJoins {mark : Char} {text before after : List Char}
    (split : splitAtFirst [mark] text = some (before, after)) :
    text = before ++ mark :: after := by
  induction text generalizing before with
  | nil => cases split
  | cons c cs ih =>
    unfold splitAtFirst at split
    split at split
    next starts =>
      cases split
      simp only [List.isPrefixOf, Bool.and_true, beq_iff_eq] at starts
      rw [starts]
      rfl
    · obtain ⟨⟨before', after'⟩, inner, same⟩ := Option.map_eq_some_iff.mp split
      cases same
      rw [ih inner]
      rfl

theorem splitExactly {mark : Char} {text before after : List Char} :
    splitAtFirst [mark] text = some (before, after) ↔
      text = before ++ mark :: after ∧ mark ∉ before := by
  constructor
  · intro split
    have joined := splitJoins split
    have member : mark ∈ text := by simp [joined]
    obtain ⟨front, back, cut, free⟩ := List.eq_append_cons_of_mem member
    rw [cut, splitFirst free] at split
    cases split
    exact ⟨joined, free⟩
  · intro given
    obtain ⟨rfl, free⟩ := given
    exact splitFirst free

theorem splitNone {mark : Char} {text : List Char} :
    splitAtFirst [mark] text = none ↔ mark ∉ text := by
  refine ⟨fun none member => ?_, splitMissing⟩
  obtain ⟨front, back, rfl, free⟩ := List.eq_append_cons_of_mem member
  rw [splitFirst free] at none
  cases none

theorem othersFree {mark : Char} {text : List Char} (free : mark ∉ text) :
    ∀ c ∈ text, (c != mark) = true := by
  intro c member
  rw [bne_iff_ne]
  intro same
  subst same
  exact free member

theorem whileFree {mark : Char} {before : List Char} (free : mark ∉ before) (after : List Char) :
    (before ++ mark :: after).takeWhile (· != mark) = before ∧
      (before ++ mark :: after).dropWhile (· != mark) = mark :: after := by
  constructor
  · rw [List.takeWhile_append_of_pos (othersFree free)]
    simp
  · rw [List.dropWhile_append_of_pos (othersFree free)]
    simp

end Signpost.Text
