import Signpost.Proofs.Chain.Records
import Signpost.Proofs.Http.Slugs
import Signpost.Proofs.Route.Choice

/-! What a dispatcher does with a request. It enters the one route that is chosen, or runs the
rest of the chain, in a context that differs from the incoming one in a few places. That this
happens once is said with marks, which handlers and the rest of the chain leave in the notes
each time they are entered. -/
namespace Signpost

namespace Route
variable {H K : Type}

/- A name is bound to the value at the last place, below both lengths, where it stands. -/
theorem Chosen.slugsLast (c : Chosen H) (name value : String) :
    c.slugs.get? name = some value ↔ ∃ i, c.route.pattern.slugNames[i]? = some name ∧
      c.values[i]? = some value ∧
        ∀ j, i < j → j < c.values.length → c.route.pattern.slugNames[j]? ≠ some name := by
  simp only [slugs, Http.Slugs.getLast, Http.Slugs.LastAt, ne_eq, List.getElem?_zip_eq_some,
    and_assoc]
  refine exists_congr fun i => and_congr_right fun _ => and_congr_right fun _ => ?_
  constructor
  · intro none j later inside named
    exact none j _ later ⟨named, List.getElem?_eq_getElem inside⟩
  · intro none j other later both
    exact none j later (List.getElem?_eq_some_iff.mp both.2).1 both.1

namespace Table
open Http (Method)

theorem selectedOnHandler {routes : Table H} {m : Method} {path : String} {i : Nat} {c : Chosen H}
    (f : H → K) (selected : Selected routes m path i c) :
    Selected (routes.map (onHandler f)) m path i (c.onHandler f) := by
  have place : ∀ {j : Nat} {r : Route K}, (routes.map (onHandler f))[j]? = some r →
      ∃ r' : Route H, routes[j]? = some r' ∧ r = r'.onHandler f := by
    intro j r found
    rw [List.getElem?_map] at found
    obtain ⟨r', there, rfl⟩ := Option.map_eq_some_iff.mp found
    exact ⟨r', there, rfl⟩
  cases selected with
  | equal here equals first =>
    refine .equal (by rw [List.getElem?_map, here]; rfl) equals ?_
    intro j r there same
    obtain ⟨r', found, rfl⟩ := place there
    exact first j r' found same
  | longest here captures unequal best =>
    refine .longest (by rw [List.getElem?_map, here]; rfl) captures ?_ ?_
    · intro r member
      obtain ⟨r', inside, rfl⟩ := List.mem_map.mp member
      exact unequal r' inside
    · intro j r values there taken
      obtain ⟨r', found, rfl⟩ := place there
      exact best j r' values found taken

/- Every handler with the number of its route. -/
def numbered (routes : Table H) : Table (Nat × H) :=
  routes.mapIdx fun i r => ⟨r.pattern, r.methods, (i, r.handler)⟩

theorem numberedHandlers (routes : Table H) :
    (numbered routes).map (onHandler Prod.snd) = routes := by
  refine List.ext_getElem? fun i => ?_
  rw [List.getElem?_map, numbered, List.getElem?_mapIdx, Option.map_map]
  exact Option.map_id_apply

theorem numberedChoice (routes : Table H) (m : Method) (path : String) :
    match choose? (numbered routes) m path with
    | some d => routes.choose? m path = some (d.onHandler Prod.snd) ∧
        Selected routes m path d.route.handler.1 (d.onHandler Prod.snd)
    | none => routes.choose? m path = none := by
  have same := chooseOnHandler Prod.snd (numbered routes) m path
  rw [numberedHandlers] at same
  cases chosen : choose? (numbered routes) m path with
  | none => rw [same, chosen]; rfl
  | some d =>
    obtain ⟨i, selected⟩ := chooseSelected chosen
    have number : d.route.handler.1 = i := by
      have here : (numbered routes)[i]? = some d.route := by cases selected <;> assumption
      rw [numbered, List.getElem?_mapIdx] at here
      obtain ⟨r, _, same⟩ := Option.map_eq_some_iff.mp here
      rw [← same]
    refine ⟨by rw [same, chosen]; rfl, ?_⟩
    rw [number]
    have whole := selectedOnHandler Prod.snd selected
    rwa [numberedHandlers] at whole

end Table
end Route

namespace Chain
open Route (Chosen Table)
variable {σ : Type}

/- The handler leaves a mark with its number as it is entered. -/
def stamped (mark : Nat → σ → σ) (h : Nat × Middleware σ) : Middleware σ := fun next ctx =>
  h.2 next { ctx with notes := mark h.1 ctx.notes }

def marked (mark : Nat → σ → σ) (routes : Table (Middleware σ)) : Table (Middleware σ) :=
  (Table.numbered routes).map (Route.onHandler (stamped mark))

/- The rest of a chain leaves a mark each time it is run. -/
def Next.marked (mark : σ → σ) (next : Next σ) : Next σ :=
  ⟨next.remaining, fun ctx => next.run { ctx with notes := mark ctx.notes }⟩

theorem enterExact (ctx : Context σ) (c : Chosen (Middleware σ)) :
    ctx.enter c = { ctx with
      request := { ctx.request with slugs := c.slugs }
      response := { ctx.response with
        status := if ctx.response.status = .notFound then .ok else ctx.response.status }
      matched := some ⟨c.route.raw, c.route.methods, c.slugs⟩
      log := ctx.log ++ [.routeMatched ctx.method ctx.path c.route.raw] } := by
  unfold Context.enter Context.claimFound
  by_cases unset : ctx.response.status = .notFound
  · simp [Context.emit, Context.setSlugs, Context.setStatus, Context.method, Context.path, unset]
  · simp [Context.emit, Context.setSlugs, Context.method, Context.path, unset]

theorem missExact (ctx : Context σ) (allowed : MethodSet) :
    ctx.miss allowed = { ctx with
      pathMethods := if allowed = .empty then ctx.pathMethods else some allowed
      log := ctx.log ++ [.noRouteMatched ctx.method ctx.path allowed] } := by
  simp only [Context.miss, MethodSet.isEmptyExact]
  split <;> rfl

/- Of the handlers one is entered at most, and it or the rest of the chain is entered once. -/
theorem dispatchesOnce (routes : Table (Middleware σ)) (next : Next σ) (ctx : Context σ)
    (enters : Nat → σ → σ) (runs : σ → σ) :
    match routes.choose? ctx.method ctx.path with
    | some c =>
      let inside : Context σ := { ctx with
        request := { ctx.request with slugs := c.slugs }
        response := { ctx.response with
          status := if ctx.response.status = .notFound then .ok else ctx.response.status }
        matched := some ⟨c.route.raw, c.route.methods, c.slugs⟩
        log := ctx.log ++ [.routeMatched ctx.method ctx.path c.route.raw] }
      dispatchTo routes next ctx = c.route.handler next inside ∧
        (∃ i, Table.Selected routes ctx.method ctx.path i c ∧
          dispatchTo (marked enters routes) (next.marked runs) ctx =
            c.route.handler (next.marked runs) { inside with notes := enters i ctx.notes }) ∧
        ∀ name value, c.slugs.get? name = some value ↔
          ∃ i, c.route.pattern.slugNames[i]? = some name ∧ c.values[i]? = some value ∧
            ∀ j, i < j → j < c.values.length → c.route.pattern.slugNames[j]? ≠ some name
    | none =>
      let behind : Context σ := { ctx with
        pathMethods := if routes.allowedFor ctx.path = .empty then ctx.pathMethods
          else some (routes.allowedFor ctx.path)
        log := ctx.log ++ [.noRouteMatched ctx.method ctx.path (routes.allowedFor ctx.path)] }
      dispatchTo routes next ctx = next.run behind ∧
        dispatchTo (marked enters routes) (next.marked runs) ctx =
          next.run { behind with notes := runs ctx.notes } := by
  have listed := Table.numberedChoice routes ctx.method ctx.path
  have same := Table.numberedHandlers routes
  have stampedChoice : (marked enters routes).choose? ctx.method ctx.path =
      ((Table.numbered routes).choose? ctx.method ctx.path).map (Chosen.onHandler (stamped enters)) :=
    Table.chooseOnHandler _ _ _ _
  have stampedAllowed : (marked enters routes).allowedFor ctx.path = routes.allowedFor ctx.path := by
    rw [marked, Table.allowedOnHandler, ← Table.allowedOnHandler Prod.snd, same]
  cases numbered : (Table.numbered routes).choose? ctx.method ctx.path with
  | some d =>
    rw [numbered] at listed stampedChoice
    obtain ⟨chosen, selected⟩ := listed
    simp only [chosen]
    refine ⟨?_, ⟨_, selected, ?_⟩, Chosen.slugsLast _⟩
    · simp only [dispatchTo, chosen, enterExact]
    · simp only [dispatchTo, stampedChoice, enterExact, Option.map_some]
      rfl
  | none =>
    rw [numbered] at listed stampedChoice
    simp only [listed]
    constructor
    · simp only [dispatchTo, listed, missExact]
    · simp only [dispatchTo, stampedChoice, Option.map_none, stampedAllowed, missExact]
      rfl

end Chain
end Signpost
