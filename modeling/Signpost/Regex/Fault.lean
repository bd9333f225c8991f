/-! Why a text is not a usable regular expression. -/
namespace Signpost.Regex

inductive Fault
  | unclosedGroup | unopenedGroup | lookAround
  | badGroupName | duplicateGroupName | badFlags
  | nothingToRepeat | badCount | reversedCount
  | unfinishedEscape | unknownEscape | backReference | badCodePoint | unknownBoundary
  | unclosedClass | notInClass | reversedRange
  | unknownProperty | needsUnicode | matchesBytes
  | tooDeep | tooLarge
  deriving DecidableEq, Repr

theorem okBind {α β : Type} {x : Except Fault α} {f : α → Except Fault β} {b : β}
    (ok : x >>= f = .ok b) : ∃ a, x = .ok a ∧ f a = .ok b := by
  cases x with
  | error fault => cases ok
  | ok a => exact ⟨a, rfl, ok⟩

end Signpost.Regex
