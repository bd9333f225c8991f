import Mathlib.Data.List.Pairwise
import Signpost.Proofs.Chain.Records
import Signpost.Proofs.Route.Choice

/-! Tables with the same routes in another order. Where routes of a common method differ in
the length of their templates, the order decides nothing: what is chosen is then known from
the routes alone, without their places. -/
namespace Signpost
open Http (Method)

namespace Route
variable {H : Type}

/- No method in common, or templates of different lengths. -/
def Apart (r s : Route H) : Prop :=
  ∀ m, r.allows m = true → s.allows m = true → r.raw.utf8ByteSize ≠ s.raw.utf8ByteSize

theorem apartSymm {r s : Route H} (apart : Apart r s) : Apart s r :=
  fun m one other same => apart m other one same.symm

instance : Std.Symm (@Apart H) := ⟨fun _ _ => apartSymm⟩

namespace Table

/- The route is taken wherever it stands. -/
inductive Fittest (routes : Table H) (m : Method) (path : String) : Chosen H → Prop
  | equal {r} (member : r ∈ routes) (equals : r.Equals m path) : Fittest routes m path ⟨r, []⟩
  | longest {r values} (member : r ∈ routes) (captures : r.Captures m path values)
      (unequal : ∀ s ∈ routes, ¬ s.Equals m path)
      (bound : ∀ s ∈ routes, ∀ values', s.Captures m path values' →
        s.raw.utf8ByteSize ≤ r.raw.utf8ByteSize) :
      Fittest routes m path ⟨r, values⟩

section
variable {routes others : Table H} {m : Method} {path : String} {c d : Chosen H}

theorem chosenFittest (chosen : routes.choose? m path = some c) : Fittest routes m path c := by
  obtain ⟨i, selected⟩ := chooseSelected chosen
  cases selected with
  | equal here equals first => exact .equal (List.mem_of_getElem? here) equals
  | longest here captures unequal best =>
    refine .longest (List.mem_of_getElem? here) captures unequal fun s member values taken => ?_
    obtain ⟨j, there⟩ := List.mem_iff_getElem?.mp member
    have beaten := best j s values there taken
    omega

theorem fittestReordered (perm : routes.Perm others) (fittest : Fittest routes m path c) :
    Fittest others m path c := by
  cases fittest with
  | equal member equals => exact .equal (perm.mem_iff.mp member) equals
  | longest member captures unequal bound =>
    exact .longest (perm.mem_iff.mp member) captures
      (fun s inside => unequal s (perm.mem_iff.mpr inside))
      fun s inside => bound s (perm.mem_iff.mpr inside)

theorem apartSame {r s : Route H} (apart : routes.Pairwise Apart) (one : r ∈ routes)
    (other : s ∈ routes) (allows : r.allows m = true) (too : s.allows m = true)
    (same : r.raw.utf8ByteSize = s.raw.utf8ByteSize) : r = s := by
  by_contra different
  exact apart.forall one other different m allows too same

theorem fittestUnique (apart : routes.Pairwise Apart) (one : Fittest routes m path c)
    (other : Fittest routes m path d) : c = d := by
  cases one with
  | equal member equals =>
    cases other with
    | equal inside same =>
      have lengths := congrArg String.utf8ByteSize (equals.2.2.trans same.2.2.symm)
      rw [apartSame apart member inside equals.1 same.1 lengths]
    | longest inside captures unequal bound => exact absurd equals (unequal _ member)
  | longest member captures unequal bound =>
    cases other with
    | equal inside same => exact absurd same (unequal _ inside)
    | longest inside taken none most =>
      have lengths := Nat.le_antisymm (most _ member _ captures) (bound _ inside _ taken)
      cases apartSame apart member inside captures.1 taken.1 lengths
      cases captures.2.symm.trans taken.2
      rfl

theorem fittestChosen (apart : routes.Pairwise Apart) :
    routes.choose? m path = some c ↔ Fittest routes m path c := by
  refine ⟨chosenFittest, fun fittest => ?_⟩
  cases chosen : routes.choose? m path with
  | none =>
    have nowhere := chooseNone.mp chosen
    cases fittest with
    | equal member equals => exact absurd equals (nowhere _ member).1
    | longest member captures unequal bound => exact absurd captures ((nowhere _ member).2 _)
  | some d => rw [fittestUnique apart (chosenFittest chosen) fittest]

theorem chooseReordered (perm : routes.Perm others) (apart : routes.Pairwise Apart) :
    routes.choose? m path = others.choose? m path := by
  refine Option.ext fun c => ?_
  rw [fittestChosen apart, fittestChosen (perm.pairwise apart apartSymm)]
  exact ⟨fittestReordered perm, fittestReordered perm.symm⟩

theorem allowedReordered (perm : routes.Perm others) :
    routes.allowedFor path = others.allowedFor path := by
  refine MethodSet.containsExt fun m => ?_
  rw [Bool.eq_iff_iff, allowedContains, allowedContains]
  simp only [perm.mem_iff]

end
end Table
end Route

namespace Chain
open Route (Apart Table)

theorem reorderedAlike {H : Type} (routes others : Table H) (perm : routes.Perm others)
    (apart : routes.Pairwise Apart) :
    (∀ m path c, routes.choose? m path = some c ↔ Table.Fittest routes m path c) ∧
      (∀ m path, routes.choose? m path = others.choose? m path) ∧
      (∀ path, routes.allowedFor path = others.allowedFor path) ∧
      ∀ (σ : Type) (run : H → Middleware σ),
        dispatchTo (routes.map (Route.onHandler run)) =
          dispatchTo (others.map (Route.onHandler run)) := by
  have chosen : ∀ m path, routes.choose? m path = others.choose? m path :=
    fun m path => Table.chooseReordered perm apart
  have allowed : ∀ path, routes.allowedFor path = others.allowedFor path :=
    fun path => Table.allowedReordered perm
  refine ⟨fun _ _ _ => Table.fittestChosen apart, chosen, allowed, fun σ run => ?_⟩
  funext next ctx
  simp only [dispatchTo, Table.chooseOnHandler, Table.allowedOnHandler, chosen, allowed]

/- The longer template is chosen wherever it stands, and the shorter one where it alone
matches. -/
theorem usersReordered : ∃ p q, Route.PathPattern.compile "/users/:id" = .ok p ∧
    Route.PathPattern.compile "/users/{id:[0-9]+}" = .ok q ∧
    let short : Route Unit := ⟨p, .ofVerbs [.get], ()⟩
    let long : Route Unit := ⟨q, .ofVerbs [.get, .post], ()⟩
    [short, long].Perm [long, short] ∧ [short, long].Pairwise Apart ∧
      (∀ m path, Table.choose? [short, long] m path = Table.choose? [long, short] m path) ∧
      (Table.choose? [long, short] (.ofVerb .get) "/users/42").map (·.route.raw) =
        some "/users/{id:[0-9]+}" ∧
      (Table.choose? [long, short] (.ofVerb .get) "/users/zava").map (·.route.raw) =
        some "/users/:id" := by
  refine ⟨_, _, rfl, rfl, ?_⟩
  intro short long
  have swapped : [short, long].Perm [long, short] := .swap long short []
  have apart : [short, long].Pairwise Apart := by
    refine List.pairwise_pair.mpr fun m _ _ => ?_
    decide +kernel
  have alike := (reorderedAlike [short, long] [long, short] swapped apart).2.1
  refine ⟨swapped, apart, alike, ?_, ?_⟩
  · rw [← alike]
    decide +kernel
  · rw [← alike]
    decide +kernel

end Chain
end Signpost
