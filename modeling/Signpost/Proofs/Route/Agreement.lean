import Signpost.Proofs.Methods.Names
import Signpost.Route.Basic

/-! Two ways to ask for the methods of a path: to choose a route for each method, and to
unite the methods of the routes that match. They agree but for a template without slugs that
equals the path and does not match it. The choice takes such a route as it stands, the union
leaves its methods out. -/
namespace Signpost
open Http (Method Verb)

namespace Route
variable {H : Type}

theorem uniteContains (routes : List (Route H)) (s : MethodSet) (m : Method) :
    (routes.foldl (fun s r => s.union r.methods) s).contains m = true ↔
      s.contains m = true ∨ ∃ r ∈ routes, r.allows m = true := by
  induction routes generalizing s with
  | nil => simp
  | cons r rest ih =>
    rw [List.foldl_cons, ih, MethodSet.containsUnion, Bool.or_eq_true]
    simp only [List.mem_cons, exists_eq_or_imp, or_assoc, allows]

namespace Chosen

theorem longerIsOne (best c : Chosen H) : best.longer c = best ∨ best.longer c = c := by
  unfold longer
  split
  · exact .inr rfl
  · exact .inl rfl

theorem longestOfFold (best : Chosen H) (cs : List (Chosen H)) :
    cs.foldl longer best ∈ best :: cs := by
  induction cs generalizing best with
  | nil => exact List.mem_singleton.mpr rfl
  | cons c cs ih =>
    rw [List.foldl_cons]
    rcases List.mem_cons.mp (ih (best.longer c)) with same | member
    · rw [same]
      rcases longerIsOne best c with first | second
      · rw [first]; exact List.mem_cons_self
      · rw [second]; exact List.mem_cons_of_mem _ List.mem_cons_self
    · exact List.mem_cons_of_mem _ (List.mem_cons_of_mem _ member)

theorem longestMember {cs : List (Chosen H)} {c : Chosen H} (found : longest? cs = some c) :
    c ∈ cs := by
  cases cs with
  | nil => cases found
  | cons first rest =>
    cases Option.some.inj found
    exact longestOfFold first rest

theorem longestSome {cs : List (Chosen H)} {c : Chosen H} (member : c ∈ cs) :
    (longest? cs).isSome = true := by
  cases cs with
  | nil => cases member
  | cons first rest => rfl

end Chosen

namespace Table

theorem allowedContains (routes : Table H) (m : Method) (path : String) :
    (routes.allowedFor path).contains m = true ↔
      ∃ r ∈ routes, r.allows m = true ∧ r.pattern.isMatch path = true := by
  rw [allowedFor, uniteContains, MethodSet.containsEmpty]
  constructor
  · intro given
    rcases given with none | ⟨r, member, allows⟩
    · cases none
    · obtain ⟨member, hit⟩ := List.mem_filter.mp member
      exact ⟨r, member, allows, hit⟩
  · intro given
    obtain ⟨r, member, allows, hit⟩ := given
    exact .inr ⟨r, List.mem_filter.mpr ⟨member, hit⟩, allows⟩

theorem allowedEmpty {routes : Table H} {path : String} :
    routes.allowedFor path = .empty ↔
      ∀ r ∈ routes, r.pattern.isMatch path = true → r.methods = .empty := by
  have holds : ∀ v, (routes.allowedFor path).has v = true ↔
      ∃ r ∈ routes, r.methods.has v = true ∧ r.pattern.isMatch path = true := by
    intro v
    have asked := allowedContains routes (.ofVerb v) path
    simpa only [allows, MethodSet.containsOfVerb] using asked
  constructor
  · intro none r member hit
    refine MethodSet.hasExt fun v => ?_
    rw [MethodSet.hasEmpty, Bool.eq_false_iff]
    intro has
    have listed := (holds v).mpr ⟨r, member, has, hit⟩
    rw [none, MethodSet.hasEmpty] at listed
    cases listed
  · intro nothing
    refine MethodSet.hasExt fun v => ?_
    rw [MethodSet.hasEmpty, Bool.eq_false_iff]
    intro has
    obtain ⟨r, member, has, hit⟩ := (holds v).mp has
    rw [nothing r member hit, MethodSet.hasEmpty] at has
    cases has

theorem literalChosen {routes : Table H} {m : Method} {path : String} {r : Route H}
    (found : routes.literal? m path = some r) :
    r ∈ routes ∧ r.allows m = true ∧ r.pattern.hasSlugs = false ∧ r.raw = path := by
  have fits := List.find?_some found
  simp only [Bool.and_eq_true, Bool.not_eq_true', beq_iff_eq] at fits
  exact ⟨List.mem_of_find?_eq_some found, fits.1.1, fits.1.2, fits.2⟩

theorem literalFound {routes : Table H} {m : Method} {path : String} {r : Route H}
    (member : r ∈ routes) (allows : r.allows m = true) (slugless : r.pattern.hasSlugs = false)
    (same : r.raw = path) : ∃ first, routes.literal? m path = some first := by
  refine Option.isSome_iff_exists.mp (List.find?_isSome.mpr ⟨r, member, ?_⟩)
  simp [allows, slugless, same]

theorem candidateMember {routes : Table H} {m : Method} {path : String} {c : Chosen H} :
    c ∈ routes.candidates m path ↔ c.route ∈ routes ∧ c.route.allows m = true ∧
      c.route.pattern.captures? path = some c.values := by
  simp only [candidates, List.mem_filterMap, List.mem_filter, Option.map_eq_some_iff]
  constructor
  · intro given
    obtain ⟨r, ⟨member, allows⟩, values, captured, rfl⟩ := given
    exact ⟨member, allows, captured⟩
  · intro given
    obtain ⟨member, allows, captured⟩ := given
    exact ⟨c.route, ⟨member, allows⟩, c.values, captured, rfl⟩

theorem chosenFits {routes : Table H} {m : Method} {path : String} {c : Chosen H}
    (chosen : routes.choose? m path = some c) :
    c.route ∈ routes ∧ c.route.allows m = true ∧ (c.route.pattern.isMatch path = true ∨
      c.route.pattern.hasSlugs = false ∧ c.route.raw = path) := by
  unfold choose? at chosen
  split at chosen
  next r found =>
    cases chosen
    obtain ⟨member, allows, slugless, same⟩ := literalChosen found
    exact ⟨member, allows, .inr ⟨slugless, same⟩⟩
  · obtain ⟨member, allows, captured⟩ := candidateMember.mp (Chosen.longestMember chosen)
    refine ⟨member, allows, .inl ?_⟩
    rw [PathPattern.isMatchIsCaptured, captured]
    rfl

theorem chooseMatching {routes : Table H} {m : Method} {path : String} {r : Route H}
    (member : r ∈ routes) (allows : r.allows m = true) (hit : r.pattern.isMatch path = true) :
    (routes.choose? m path).isSome = true := by
  unfold choose?
  split
  · rfl
  · rw [PathPattern.isMatchIsCaptured] at hit
    obtain ⟨values, captured⟩ := Option.isSome_iff_exists.mp hit
    exact Chosen.longestSome (candidateMember.mpr
      (show (⟨r, values⟩ : Chosen H).route ∈ routes ∧ _ from ⟨member, allows, captured⟩))

/- Where no route is chosen, no route that matches the path has the method. -/
theorem missExcludes {routes : Table H} {m : Method} {path : String}
    (miss : routes.choose? m path = none) : (routes.allowedFor path).contains m = false := by
  rw [Bool.eq_false_iff]
  intro listed
  obtain ⟨r, member, allows, hit⟩ := (allowedContains routes m path).mp listed
  have chosen := chooseMatching member allows hit
  rw [miss] at chosen
  cases chosen

theorem chooseAgreesWithAllowed (routes : Table H) (m : Method) (path : String) :
    ((routes.choose? m path).isSome = true ↔ (routes.allowedFor path).contains m = true ∨
      ∃ r ∈ routes, r.allows m = true ∧ r.pattern.hasSlugs = false ∧ r.raw = path ∧
        r.pattern.isMatch path = false) ∧
    ∀ c, routes.choose? m path = some c → c.route ∈ routes ∧ c.route.allows m = true ∧
      (c.route.pattern.isMatch path = false →
        c.route.pattern.hasSlugs = false ∧ c.route.raw = path) := by
  refine ⟨⟨?_, ?_⟩, ?_⟩
  · intro chosen
    obtain ⟨c, chosen⟩ := Option.isSome_iff_exists.mp chosen
    obtain ⟨member, allows, fits⟩ := chosenFits chosen
    cases hit : c.route.pattern.isMatch path with
    | true => exact .inl ((allowedContains routes m path).mpr ⟨c.route, member, allows, hit⟩)
    | false =>
      rcases fits with matched | ⟨slugless, same⟩
      · rw [hit] at matched
        cases matched
      · exact .inr ⟨c.route, member, allows, slugless, same, hit⟩
  · intro given
    rcases given with listed | ⟨r, member, allows, slugless, same, _⟩
    · obtain ⟨r, member, allows, hit⟩ := (allowedContains routes m path).mp listed
      exact chooseMatching member allows hit
    · obtain ⟨first, found⟩ := literalFound member allows slugless same
      simp [choose?, found]
  · intro c chosen
    obtain ⟨member, allows, fits⟩ := chosenFits chosen
    refine ⟨member, allows, fun fails => ?_⟩
    rcases fits with matched | same
    · rw [fails] at matched
      cases matched
    · exact same

theorem exactTemplateUnlisted : ∃ p, PathPattern.compile "/a+" = .ok p ∧
    let routes : Table Unit := [⟨p, .ofVerbs [.get], ()⟩]
    (routes.choose? (.ofVerb .get) "/a+").isSome = true ∧
      (routes.allowedFor "/a+").contains (.ofVerb .get) = false := by
  refine ⟨_, rfl, ?_⟩
  decide +kernel

end Table
end Route
end Signpost
