import Signpost.Proofs.Route.Choice
import Signpost.Proofs.Router.Tables

/-! Routers merged, which puts their tables in a row. The choice on two tables in a row lies
between the choices on each of them, and the methods of a path are those of both. -/
namespace Signpost
open Http (Method)

namespace Route
variable {H : Type}

namespace Chosen

theorem longerAssoc (a b c : Chosen H) : (a.longer b).longer c = a.longer (b.longer c) := by
  simp only [longer]
  split_ifs <;> first | rfl | omega

/- Of two choices the one with the longer template, the first of equals. -/
def either : Option (Chosen H) → Option (Chosen H) → Option (Chosen H)
  | some a, some b => some (if a.route.raw.utf8ByteSize < b.route.raw.utf8ByteSize then b else a)
  | some a, none => some a
  | none, c? => c?

theorem longestAppend (cs ds : List (Chosen H)) :
    longest? (cs ++ ds) = either (longest? cs) (longest? ds) := by
  have : Std.Associative (longer : Chosen H → Chosen H → Chosen H) := ⟨longerAssoc⟩
  cases cs with
  | nil => rfl
  | cons c cs =>
    cases ds with
    | nil => rw [List.append_nil]; rfl
    | cons d ds =>
      rw [List.cons_append, longest?, List.foldl_append, List.foldl_cons, List.foldl_assoc]
      rfl

end Chosen

namespace Table

/- The first template of a table that equals the path. -/
def FirstEqual (routes : Table H) (m : Method) (path : String) (r : Route H) : Prop :=
  ∃ before after, routes = before ++ r :: after ∧ r.Equals m path ∧
    ∀ s ∈ before, ¬ s.Equals m path

section
variable {routes a b : Table H} {m : Method} {path : String} {r : Route H}

theorem firstEqualFound : routes.FirstEqual m path r ↔ routes.literal? m path = some r := by
  rw [literal?, List.find?_eq_some_iff_append, literalFits]
  have others : ∀ s : Route H, (!(s.allows m && !s.pattern.hasSlugs && s.raw == path)) = true ↔
      ¬ s.Equals m path := by
    intro s
    rw [← literalFits, Bool.not_eq_true', Bool.eq_false_iff]
  simp only [others]
  constructor
  · rintro ⟨before, after, cut, equals, none⟩
    exact ⟨equals, before, after, cut, none⟩
  · rintro ⟨equals, before, after, cut, none⟩
    exact ⟨before, after, cut, equals, none⟩

theorem firstEqualSome (some : ∃ s ∈ routes, s.Equals m path) : ∃ r, routes.FirstEqual m path r := by
  simp only [firstEqualFound, ← Option.isSome_iff_exists, Option.isSome_iff_ne_none, ne_eq,
    literalNone]
  obtain ⟨s, member, equals⟩ := some
  exact fun none => none s member equals

theorem literalAppend : literal? (a ++ b) m path = (a.literal? m path).or (b.literal? m path) :=
  List.find?_append

theorem candidatesAppend :
    candidates (a ++ b) m path = a.candidates m path ++ b.candidates m path := by
  rw [candidates, List.filter_append, List.filterMap_append]
  rfl

theorem chooseFirstEqual (first : routes.FirstEqual m path r) :
    routes.choose? m path = some ⟨r, []⟩ := by
  rw [choose?, firstEqualFound.mp first]

theorem firstEqualLeft (first : a.FirstEqual m path r) :
    FirstEqual (a ++ b) m path r := by
  rw [firstEqualFound] at first ⊢
  rw [literalAppend, first]
  rfl

theorem firstEqualRight (none : ∀ s ∈ a, ¬ s.Equals m path) (first : b.FirstEqual m path r) :
    FirstEqual (a ++ b) m path r := by
  rw [firstEqualFound] at first ⊢
  rw [literalAppend, literalNone.mpr none, first]
  rfl

theorem chooseUnequal (none : ∀ s ∈ routes, ¬ s.Equals m path) :
    routes.choose? m path = Chosen.longest? (routes.candidates m path) := by
  rw [choose?, literalNone.mpr none]

theorem chooseAppend (none : ∀ s ∈ a ++ b, ¬ s.Equals m path) :
    choose? (a ++ b) m path = Chosen.either (a.choose? m path) (b.choose? m path) := by
  obtain ⟨left, right⟩ := List.forall_mem_append.mp none
  rw [chooseUnequal none, candidatesAppend, Chosen.longestAppend, ← chooseUnequal left,
    ← chooseUnequal right]

theorem missAppend :
    choose? (a ++ b) m path = none ↔ a.choose? m path = none ∧ b.choose? m path = none := by
  rw [chooseNone, chooseNone, chooseNone, List.forall_mem_append]

theorem containsAppend : (allowedFor (a ++ b) path).contains m =
    ((a.allowedFor path).contains m || (b.allowedFor path).contains m) := by
  rw [Bool.eq_iff_iff, Bool.or_eq_true, allowedContains, allowedContains, allowedContains]
  simp only [List.mem_append, or_and_right, exists_or]

theorem allowedAppend :
    allowedFor (a ++ b) path = (a.allowedFor path).union (b.allowedFor path) :=
  MethodSet.containsExt fun _ => containsAppend.trans (MethodSet.containsUnion _ _ _).symm

end
end Table
end Route

namespace Router
open Route (Chosen Table)
variable {H : Type}

/- A template that equals the path is taken from the first table that has one. Without such a
template the choices on both tables compete. -/
theorem mergingDistributes (routers : List (Router H)) (a b : Table H) (m : Method)
    (path : String) :
    ((merge routers).table = (routers.map table).flatten ∧
        (∀ r, routers = [r] → merge routers = r) ∧
        (routers.length ≠ 1 → (merge routers).base = "" ∧ (merge routers).methods = none)) ∧
      ((∃ s ∈ a, s.Equals m path) → ∃ r, a.FirstEqual m path r ∧
        a.choose? m path = some ⟨r, []⟩ ∧ Table.choose? (a ++ b) m path = some ⟨r, []⟩) ∧
      ((∀ s ∈ a, ¬ s.Equals m path) → (∃ s ∈ b, s.Equals m path) → ∃ r, b.FirstEqual m path r ∧
        b.choose? m path = some ⟨r, []⟩ ∧ Table.choose? (a ++ b) m path = some ⟨r, []⟩) ∧
      ((∀ s ∈ a ++ b, ¬ s.Equals m path) →
        Table.choose? (a ++ b) m path = Chosen.either (a.choose? m path) (b.choose? m path)) ∧
      (Table.choose? (a ++ b) m path = none ↔
        a.choose? m path = none ∧ b.choose? m path = none) ∧
      Table.allowedFor (a ++ b) path = (a.allowedFor path).union (b.allowedFor path) ∧
      ∀ other, (Table.allowedFor (a ++ b) path).contains other =
        ((a.allowedFor path).contains other || (b.allowedFor path).contains other) := by
  refine ⟨⟨mergeTable routers, ?_, ?_⟩, ?_, ?_, Table.chooseAppend, Table.missAppend,
    Table.allowedAppend, fun _ => Table.containsAppend⟩
  · rintro r rfl
    rfl
  · intro several
    rw [mergeSeveral several]
    exact ⟨rfl, rfl⟩
  · intro some
    obtain ⟨r, first⟩ := Table.firstEqualSome some
    exact ⟨r, first, Table.chooseFirstEqual first,
      Table.chooseFirstEqual (Table.firstEqualLeft first)⟩
  · intro none some
    obtain ⟨r, first⟩ := Table.firstEqualSome some
    exact ⟨r, first, Table.chooseFirstEqual first,
      Table.chooseFirstEqual (Table.firstEqualRight none first)⟩

end Router
end Signpost
