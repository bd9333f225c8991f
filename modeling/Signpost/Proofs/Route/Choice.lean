import Signpost.Proofs.Route.Agreement

/-! Which route is chosen, and with which values. The choice is said of places in the table:
the first template that equals the path, or else the first of the longest that match. -/
namespace Signpost.Route
open Http (Method)
variable {H : Type}

/- The template has no slugs and is the path, byte for byte. -/
def Equals (r : Route H) (m : Method) (path : String) : Prop :=
  r.allows m = true ∧ r.pattern.hasSlugs = false ∧ r.raw = path

def Captures (r : Route H) (m : Method) (path : String) (values : List String) : Prop :=
  r.allows m = true ∧ r.pattern.captures? path = some values

namespace Chosen

/- Longer than all before it and no shorter than any behind it. -/
structure FirstLongest (before : List (Chosen H)) (c : Chosen H) (after : List (Chosen H)) :
    Prop where
  before : ∀ b ∈ before, b.length < c.length
  after : ∀ a ∈ after, a.length ≤ c.length

/- By induction on the list, for each best one so far. -/
theorem foldFirstLongest (best : Chosen H) (cs : List (Chosen H)) :
    ∃ before after, best :: cs = before ++ cs.foldl longer best :: after ∧
      FirstLongest before (cs.foldl longer best) after := by
  induction cs generalizing best with
  | nil => exact ⟨[], [], rfl, ⟨by simp, by simp⟩⟩
  | cons c cs ih =>
    rw [List.foldl_cons, longer]
    split
    next shorter =>
      obtain ⟨before, after, same, first⟩ := ih c
      have beaten : best.length < (cs.foldl longer c).length := by
        cases before with
        | nil =>
          rw [List.nil_append] at same
          rw [← (List.cons.inj same).1]
          exact shorter
        | cons b before =>
          have bound := first.before b List.mem_cons_self
          rw [← (List.cons.inj same).1] at bound
          exact Nat.lt_trans shorter bound
      refine ⟨best :: before, after, by rw [same]; rfl, ⟨?_, first.after⟩⟩
      exact List.forall_mem_cons.mpr ⟨beaten, first.before⟩
    next kept =>
      obtain ⟨before, after, same, first⟩ := ih best
      have bound : c.length ≤ best.length := Nat.le_of_not_lt kept
      cases before with
      | nil =>
        obtain ⟨here, rest⟩ := List.cons.inj same
        refine ⟨[], c :: cs, by rw [← here]; rfl, ⟨by simp, ?_⟩⟩
        rw [← here] at first ⊢
        exact List.forall_mem_cons.mpr ⟨bound, rest ▸ first.after⟩
      | cons b before =>
        obtain ⟨rfl, rest⟩ := List.cons.inj same
        have beaten := first.before best List.mem_cons_self
        refine ⟨best :: c :: before, after, congrArg (best :: c :: ·) rest, ⟨?_, first.after⟩⟩
        rw [List.forall_mem_cons, List.forall_mem_cons]
        exact ⟨beaten, Nat.lt_of_le_of_lt bound beaten,
          (List.forall_mem_cons.mp first.before).2⟩

theorem longestSplit {cs : List (Chosen H)} {c : Chosen H} (found : longest? cs = some c) :
    ∃ before after, cs = before ++ c :: after ∧ FirstLongest before c after := by
  cases cs with
  | nil => cases found
  | cons best rest =>
    cases Option.some.inj found
    exact foldFirstLongest best rest

theorem longestNone {cs : List (Chosen H)} : longest? cs = none ↔ cs = [] := by
  cases cs <;> simp [longest?]

end Chosen

namespace Table

def candidate? (m : Method) (path : String) (r : Route H) : Option (Chosen H) :=
  if r.allows m then (r.pattern.captures? path).map fun values => ⟨r, values⟩ else none

theorem candidateExact {m : Method} {path : String} {r : Route H} {c : Chosen H} :
    candidate? m path r = some c ↔ c.route = r ∧ r.Captures m path c.values := by
  unfold candidate? Captures
  constructor
  · intro found
    split at found
    next allows =>
      obtain ⟨values, captured, rfl⟩ := Option.map_eq_some_iff.mp found
      exact ⟨rfl, allows, captured⟩
    · cases found
  · intro given
    obtain ⟨rfl, allows, captured⟩ := given
    rw [if_pos allows, captured]
    rfl

theorem candidatesEach (routes : Table H) (m : Method) (path : String) :
    routes.candidates m path = routes.filterMap (candidate? m path) := by
  rw [candidates, List.filterMap_filter]
  rfl

/- A place among the candidates is a place in the table. -/
theorem candidatesCut {routes : Table H} {m : Method} {path : String}
    {before after : List (Chosen H)} {c : Chosen H}
    (cut : routes.candidates m path = before ++ c :: after) :
    ∃ front back, routes = front ++ c.route :: back ∧ c.route.Captures m path c.values ∧
      (∀ r ∈ front, ∀ d, candidate? m path r = some d → d ∈ before) ∧
      ∀ r ∈ back, ∀ d, candidate? m path r = some d → d ∈ after := by
  rw [candidatesEach, List.filterMap_eq_append_iff] at cut
  obtain ⟨front, rest, rfl, rfl, cut⟩ := cut
  obtain ⟨skipped, r, back, rfl, none, taken, rfl⟩ := List.filterMap_eq_cons_iff.mp cut
  obtain ⟨rfl, captures⟩ := candidateExact.mp taken
  refine ⟨front ++ skipped, back, by simp, captures, ?_, ?_⟩
  · intro r member d found
    rcases List.mem_append.mp member with member | member
    · exact List.mem_filterMap.mpr ⟨r, member, found⟩
    · rw [none r member] at found
      cases found
  · exact fun r member d found => List.mem_filterMap.mpr ⟨r, member, found⟩

/- The route that stands at this place of the table is the one to take, with these values. -/
inductive Selected (routes : Table H) (m : Method) (path : String) (i : Nat) : Chosen H → Prop
  | equal {r} (here : routes[i]? = some r) (equals : r.Equals m path)
      (first : ∀ j r', routes[j]? = some r' → r'.Equals m path → i ≤ j) :
      Selected routes m path i ⟨r, []⟩
  | longest {r values} (here : routes[i]? = some r) (captures : r.Captures m path values)
      (unequal : ∀ r' ∈ routes, ¬ r'.Equals m path)
      (best : ∀ j r' values', routes[j]? = some r' → r'.Captures m path values' →
        r'.raw.utf8ByteSize < r.raw.utf8ByteSize ∨
          r'.raw.utf8ByteSize = r.raw.utf8ByteSize ∧ i ≤ j) :
      Selected routes m path i ⟨r, values⟩

section
variable {routes : Table H} {m : Method} {path : String}

theorem selectedUnique {i j : Nat} {c d : Chosen H} (one : Selected routes m path i c)
    (other : Selected routes m path j d) : i = j ∧ c = d := by
  cases one with
  | equal here equals first =>
    cases other with
    | equal there same earliest =>
      have place := Nat.le_antisymm (first _ _ there same) (earliest _ _ here equals)
      subst place
      cases here.symm.trans there
      exact ⟨rfl, rfl⟩
    | longest there captures unequal best =>
      exact absurd equals (unequal _ (List.mem_of_getElem? here))
  | longest here captures unequal best =>
    cases other with
    | equal there same earliest => exact absurd same (unequal _ (List.mem_of_getElem? there))
    | longest there taken none most =>
      have place : i = j := by
        have one := best _ _ _ there taken
        have other := most _ _ _ here captures
        omega
      subst place
      cases here.symm.trans there
      cases captures.2.symm.trans taken.2
      exact ⟨rfl, rfl⟩

theorem literalFits {r : Route H} :
    (r.allows m && !r.pattern.hasSlugs && r.raw == path) = true ↔ r.Equals m path := by
  simp [Equals, and_assoc]

theorem literalSelected {r : Route H} (found : routes.literal? m path = some r) :
    ∃ i, Selected routes m path i ⟨r, []⟩ := by
  obtain ⟨fits, i, inside, rfl, earlier⟩ := List.find?_eq_some_iff_getElem.mp found
  refine ⟨i, .equal (List.getElem?_eq_getElem inside) (literalFits.mp fits) ?_⟩
  intro j r' there equals
  refine Nat.le_of_not_lt fun before => ?_
  have unfit := earlier j before
  obtain ⟨_, rfl⟩ := List.getElem?_eq_some_iff.mp there
  rw [literalFits.mpr equals] at unfit
  cases unfit

theorem literalNone :
    routes.literal? m path = none ↔ ∀ r ∈ routes, ¬ r.Equals m path := by
  simp only [literal?, List.find?_eq_none, literalFits]

theorem longestSelected {c : Chosen H} (unequal : ∀ r ∈ routes, ¬ r.Equals m path)
    (found : Chosen.longest? (routes.candidates m path) = some c) :
    ∃ i, Selected routes m path i c := by
  obtain ⟨before, after, cut, first⟩ := Chosen.longestSplit found
  obtain ⟨front, back, rfl, captures, fronts, backs⟩ := candidatesCut cut
  refine ⟨front.length, .longest (by simp) captures unequal ?_⟩
  intro j r values there taken
  have candidate : candidate? m path r = some ⟨r, values⟩ := candidateExact.mpr ⟨rfl, taken⟩
  rcases Nat.lt_trichotomy j front.length with early | rfl | late
  · rw [List.getElem?_append_left early] at there
    exact .inl (first.before _ (fronts r (List.mem_of_getElem? there) _ candidate))
  · rw [List.getElem?_append_right (Nat.le_refl _), Nat.sub_self] at there
    cases there
    exact .inr ⟨rfl, Nat.le_refl _⟩
  · rw [List.getElem?_append_right (Nat.le_of_lt late),
      show j - front.length = j - front.length - 1 + 1 by omega, List.getElem?_cons_succ] at there
    have bound : r.raw.utf8ByteSize ≤ c.route.raw.utf8ByteSize :=
      first.after _ (backs r (List.mem_of_getElem? there) _ candidate)
    omega

theorem chooseSelected {c : Chosen H} (chosen : routes.choose? m path = some c) :
    ∃ i, Selected routes m path i c := by
  unfold choose? at chosen
  split at chosen
  next r found =>
    cases chosen
    exact literalSelected found
  next none => exact longestSelected (literalNone.mp none) chosen

theorem chooseNone : routes.choose? m path = none ↔
    ∀ r ∈ routes, ¬ r.Equals m path ∧ ∀ values, ¬ r.Captures m path values := by
  have nothing : routes.candidates m path = [] ↔
      ∀ r ∈ routes, ∀ values, ¬ r.Captures m path values := by
    rw [List.eq_nil_iff_forall_not_mem]
    constructor
    · exact fun none r member values taken =>
        none ⟨r, values⟩ (candidateMember.mpr ⟨member, taken.1, taken.2⟩)
    · intro none c member
      obtain ⟨member, allows, captured⟩ := candidateMember.mp member
      exact none c.route member c.values ⟨allows, captured⟩
  unfold choose?
  split
  next r found =>
    obtain ⟨member, equals⟩ := literalChosen found
    exact ⟨(fun none => nomatch none), fun none => absurd equals (none r member).1⟩
  next none =>
    rw [Chosen.longestNone, nothing]
    have unequal := literalNone.mp none
    exact ⟨fun none r member => ⟨unequal r member, none r member⟩,
      fun none r member => (none r member).2⟩

/- A choice is made exactly where there is a route to take, and it is that one. -/
theorem choosesFirstLongest (routes : Table H) (m : Method) (path : String) :
    (∀ c, routes.choose? m path = some c ↔ ∃ i, Selected routes m path i c) ∧
    (routes.choose? m path = none ↔
      ∀ r ∈ routes, ¬ r.Equals m path ∧ ∀ values, ¬ r.Captures m path values) ∧
    ∀ c, routes.choose? m path = some c → c.route ∈ routes ∧ c.route.allows m = true ∧
      (c.route.Equals m path ∧ c.values = [] ∨
        c.route.pattern.captures? path = some c.values) := by
  refine ⟨fun c => ⟨chooseSelected, ?_⟩, chooseNone, ?_⟩
  · intro given
    obtain ⟨i, selected⟩ := given
    cases chosen : routes.choose? m path with
    | none =>
      have nowhere := chooseNone.mp chosen
      cases selected with
      | equal here equals first =>
        exact absurd equals (nowhere _ (List.mem_of_getElem? here)).1
      | longest here captures unequal best =>
        exact absurd captures ((nowhere _ (List.mem_of_getElem? here)).2 _)
    | some d =>
      obtain ⟨j, other⟩ := chooseSelected chosen
      rw [(selectedUnique other selected).2]
  · intro c chosen
    obtain ⟨i, selected⟩ := chooseSelected chosen
    cases selected with
    | equal here equals first =>
      exact ⟨List.mem_of_getElem? here, equals.1, .inl ⟨equals, rfl⟩⟩
    | longest here captures unequal best =>
      exact ⟨List.mem_of_getElem? here, captures.1, .inr captures.2⟩

end
end Table
end Signpost.Route
