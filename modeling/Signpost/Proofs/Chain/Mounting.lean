import Signpost.Proofs.Chain.Refusal
import Signpost.Proofs.Router.Tables
import Signpost.Proofs.Text.Fields

/-! Several routers in one chain, with negotiation behind them all. Each of them that has
routes for the path, though not for the method, writes the record that negotiation reads, and
so the last one decides which methods are listed. A router merged from them lists the methods
of all. -/
namespace Signpost
open Http (Body Failure HttpError Method Request Response)
open Route (Table)

namespace Text

theorem consIntercalateHead (sep : List Char) (c : Char) (piece : List Char)
    (rest : List (List Char)) :
    sep.intercalate ((c :: piece) :: rest) = c :: sep.intercalate (piece :: rest) := by
  cases rest with
  | nil => simp
  | cons next rest => simp [List.intercalate_cons_cons]

/- A separator of two signs is one of the first sign, with the second before each piece. -/
theorem intercalatePair (first second : Char) (piece : List Char) (rest : List (List Char)) :
    [first, second].intercalate (piece :: rest) =
      [first].intercalate (piece :: rest.map (second :: ·)) := by
  induction rest generalizing piece with
  | nil => simp
  | cons next rest ih =>
    rw [List.intercalate_cons_cons, ih next, List.map_cons, List.intercalate_cons_cons,
      consIntercalateHead]
    simp

end Text

namespace MethodSet

theorem nameFree (v : Http.Verb) : ',' ∉ v.name.toList := by cases v <;> decide

theorem nameFilled (v : Http.Verb) : v.name.toList ≠ [] := by cases v <;> decide

/- The names of a text of methods; behind a comma there is a blank. -/
theorem fieldsText {s : MethodSet} {v : Http.Verb} {rest : List Http.Verb}
    (listed : s.verbs = v :: rest) :
    Text.fields ',' s.text.toList =
      v.name.toList :: (rest.map fun w => ' ' :: w.name.toList) := by
  have sep : ", ".toList = [',', ' '] := rfl
  rw [text, names, listed, String.toList_intercalate, sep, List.map_cons, List.map_cons,
    Text.intercalatePair, Text.fieldsIntercalate (List.cons_ne_nil _ _)]
  · simp
  · intro piece member
    rcases List.mem_cons.mp member with rfl | member
    · exact nameFree v
    · simp only [List.map_map, List.mem_map, Function.comp_apply] at member
      obtain ⟨w, _, rfl⟩ := member
      simpa using nameFree w

theorem textVerbs {s t : MethodSet} (same : s.text = t.text) : s.verbs = t.verbs := by
  have blank : ∀ {v : Http.Verb} {rest : List Http.Verb} {u : MethodSet},
      u.verbs = v :: rest → u.text ≠ "" := by
    intro v rest u listed none
    have pieces := fieldsText listed
    rw [none] at pieces
    exact nameFilled v (List.cons.inj pieces).1.symm
  have silent : ∀ {u : MethodSet}, u.verbs = [] → u.text = "" := by
    intro u none
    rw [text, names, none]
    rfl
  cases first : s.verbs with
  | nil =>
    cases second : t.verbs with
    | nil => rfl
    | cons w others => exact absurd (same ▸ silent first) (blank second)
  | cons v rest =>
    cases second : t.verbs with
    | nil => exact absurd (same ▸ silent second) (blank first)
    | cons w others =>
      have pieces := (fieldsText first).symm.trans (same ▸ fieldsText second)
      have named : ∀ {a b : Http.Verb}, a.name.toList = b.name.toList → a = b :=
        fun h => Http.Verb.nameInjective (String.toList_injective h)
      obtain ⟨head, tail⟩ := List.cons.inj pieces
      have later : rest = others :=
        (List.map_inj_right fun a b h => named (List.cons.inj h).2).mp tail
      rw [named head, later]

theorem allowHeaderInjective {s t : MethodSet} (same : s.allowHeader = t.allowHeader) : s = t := by
  have value : s.headerValue = t.headerValue := by simpa [allowHeader] using same
  have verbs : s.verbs = t.verbs :=
    textVerbs (by rw [← headerValueText s, value, headerValueText])
  refine hasExt fun v => ?_
  rw [Bool.eq_iff_iff, ← memVerbs, ← memVerbs, verbs]

/- How a record is kept that is written again for each set that is not empty. -/
def keepLast (kept s : MethodSet) : MethodSet := if s.isEmpty then kept else s

def lastListed (sets : List MethodSet) : MethodSet := sets.foldl keepLast .empty

theorem keepLastEmpty {kept s : MethodSet} :
    keepLast kept s = .empty ↔ kept = .empty ∧ s = .empty := by
  unfold keepLast
  split
  next none => simp [isEmptyExact.mp none]
  next some =>
    rw [isEmptyExact] at some
    simp [some]

theorem lastListedMember (sets : List MethodSet) :
    lastListed sets = .empty ∨ lastListed sets ∈ sets := by
  have start : ∀ kept, sets.foldl keepLast kept = kept ∨ sets.foldl keepLast kept ∈ sets := by
    induction sets with
    | nil => exact fun kept => .inl rfl
    | cons s rest ih =>
      intro kept
      rw [List.foldl_cons]
      rcases ih (keepLast kept s) with same | member
      · rw [same, keepLast]
        split
        · exact .inl rfl
        · exact .inr List.mem_cons_self
      · exact .inr (List.mem_cons_of_mem _ member)
  exact start .empty

theorem lastListedEmpty {sets : List MethodSet} :
    lastListed sets = .empty ↔ ∀ s ∈ sets, s = .empty := by
  have start : ∀ kept, sets.foldl keepLast kept = .empty ↔
      kept = .empty ∧ ∀ s ∈ sets, s = .empty := by
    induction sets with
    | nil => simp
    | cons s rest ih =>
      intro kept
      rw [List.foldl_cons, ih, keepLastEmpty, List.forall_mem_cons, and_assoc]
  rw [lastListed, start]
  exact and_iff_right rfl

end MethodSet

namespace Route.Table
variable {H : Type}

theorem missExactly {routes : Table H} {m : Method} {path : String} :
    routes.choose? m path = none ↔ ∀ r ∈ routes, r.allows m = true →
      r.pattern.isMatch path = false ∧ (r.pattern.hasSlugs = false → r.raw ≠ path) := by
  constructor
  · intro miss r member allows
    refine ⟨?_, ?_⟩
    · rw [Bool.eq_false_iff]
      intro hit
      have chosen := chooseMatching member allows hit
      rw [miss] at chosen
      cases chosen
    · intro slugless same
      obtain ⟨first, found⟩ := literalFound member allows slugless same
      rw [choose?, found] at miss
      cases miss
  · intro none
    cases chosen : routes.choose? m path with
    | none => rfl
    | some c =>
      obtain ⟨member, allows, fits⟩ := chosenFits chosen
      obtain ⟨fails, other⟩ := none c.route member allows
      rcases fits with hit | ⟨slugless, same⟩
      · rw [hit] at fails
        cases fails
      · exact absurd same (other slugless)

theorem missJoined {tables : List (Table H)} {m : Method} {path : String} :
    Table.choose? tables.flatten m path = none ↔ ∀ t ∈ tables, t.choose? m path = none := by
  simp only [missExactly, List.mem_flatten]
  constructor
  · intro joined t member r inside
    exact joined r ⟨t, member, inside⟩
  · intro each r given
    obtain ⟨t, member, inside⟩ := given
    exact each t member r inside

theorem allowedJoined {tables : List (Table H)} {path : String} :
    Table.allowedFor tables.flatten path = .empty ↔ ∀ t ∈ tables, t.allowedFor path = .empty := by
  simp only [allowedEmpty, List.mem_flatten]
  constructor
  · intro joined t member r inside
    exact joined r ⟨t, member, inside⟩
  · intro each r given
    obtain ⟨t, member, inside⟩ := given
    exact each t member r inside

end Route.Table

namespace Chain
variable {σ : Type}

/- Some routers one behind the other, and negotiation behind them all. -/
def mounted (routers : List (Router (Middleware σ))) (n : Negotiation) : Pipeline σ :=
  ⟨routers.map Router.routes ++ [n.middleware]⟩

def missAll (ctx : Context σ) (routers : List (Router (Middleware σ))) : Context σ :=
  routers.foldl (fun ctx r => ctx.miss (r.table.allowedFor ctx.path)) ctx

theorem requestAfterAll (ctx : Context σ) (routers : List (Router (Middleware σ))) :
    (missAll ctx routers).request = ctx.request := by
  induction routers generalizing ctx with
  | nil => rfl
  | cons r rest ih => rw [missAll, List.foldl_cons, ← missAll, ih, requestAfterMiss]

theorem freshAfterAll {ctx : Context σ} (fresh : Fresh ctx) (routers : List (Router (Middleware σ))) :
    Fresh (missAll ctx routers) := by
  induction routers generalizing ctx with
  | nil => exact fresh
  | cons r rest ih => exact ih (freshMiss fresh _)

theorem recordAfterMiss (ctx : Context σ) (s : MethodSet) :
    (ctx.miss s).pathMethods.getD .empty = (ctx.pathMethods.getD .empty).keepLast s := by
  unfold Context.miss MethodSet.keepLast
  split <;> rfl

theorem recordAfterAll (ctx : Context σ) (routers : List (Router (Middleware σ))) :
    (missAll ctx routers).pathMethods.getD .empty =
      (routers.map fun r => r.table.allowedFor ctx.path).foldl MethodSet.keepLast
        (ctx.pathMethods.getD .empty) := by
  induction routers generalizing ctx with
  | nil => rfl
  | cons r rest ih =>
    have same : (ctx.miss (r.table.allowedFor ctx.path)).path = ctx.path := by
      rw [Context.path, requestAfterMiss, ← Context.path]
    rw [missAll, List.foldl_cons, ← missAll, ih, recordAfterMiss, same]
    rfl

theorem missedRun {routers : List (Router (Middleware σ))} {ctx : Context σ}
    (rest : List (Middleware σ))
    (miss : ∀ r ∈ routers, r.table.choose? ctx.method ctx.path = none) :
    (Next.ofChain (routers.map Router.routes ++ rest)).run ctx =
      (Next.ofChain rest).run (missAll ctx routers) := by
  induction routers generalizing ctx with
  | nil => rfl
  | cons r others ih =>
    have here := miss r List.mem_cons_self
    have later : ∀ r' ∈ others, r'.table.choose? (ctx.miss (r.table.allowedFor ctx.path)).method
        (ctx.miss (r.table.allowedFor ctx.path)).path = none := by
      intro r' member
      simp only [Context.method, Context.path, requestAfterMiss]
      exact miss r' (List.mem_cons_of_mem _ member)
    rw [List.map_cons, List.cons_append, Next.runOfChainCons, Router.routes, dispatchTo, here]
    simp only
    rw [ih later]
    rfl

/- What each router keeps in the record, from the first to the last. -/
theorem mountedAnswer {routers : List (Router (Middleware σ))} {request : Request}
    (o : NegotiationOptions) (notes : σ)
    (miss : ∀ r ∈ routers, r.table.choose? request.method request.path = none) :
    ((mounted routers (Negotiation.ofOptions o)).dispatch request notes).1 =
      refusal o request.method
        (MethodSet.lastListed (routers.map fun r => r.table.allowedFor request.path)) := by
  have fresh : Fresh ({ request, notes } : Context σ) := ⟨rfl, rfl⟩
  have behind := freshAfterAll fresh routers
  have method : (missAll ({ request, notes } : Context σ) routers).method = request.method := by
    rw [Context.method, requestAfterAll]
  have known : Negotiation.allowed (missAll ({ request, notes } : Context σ) routers) =
      MethodSet.lastListed (routers.map fun r => r.table.allowedFor request.path) := by
    rw [Negotiation.allowed, behind.matched]
    exact recordAfterAll _ routers
  have excluded : (MethodSet.lastListed (routers.map fun r =>
      r.table.allowedFor request.path)).contains request.method = false := by
    rcases MethodSet.lastListedMember (routers.map fun r => r.table.allowedFor request.path)
      with none | member
    · rw [none]
      exact MethodSet.containsEmpty _
    · obtain ⟨r, inside, same⟩ := List.mem_map.mp member
      rw [← same]
      exact Table.missExcludes (miss r inside)
  have refuses : Refuses ((Negotiation.ofOptions o).middleware Next.done
      (missAll ({ request, notes } : Context σ) routers)) _ :=
    negotiationRefuses rfl behind known (by rw [method]; exact excluded)
  rw [method] at refuses
  have ran : (Next.ofChain (mounted routers (Negotiation.ofOptions o)).chain).run
      { request, notes } = (Negotiation.ofOptions o).middleware Next.done
        (missAll { request, notes } routers) := by
    rw [mounted, missedRun _ miss, Next.runOfChainCons, Next.ofChainNil]
  rw [← refuses.answer]
  exact dispatchAnswers ran refuses.bodiless

/- A refusal that fails does not list the methods, unless it is the failure for a method that
is not allowed. -/
def NegotiationOptions.hidesMethods (o : NegotiationOptions) (m : Method) : Prop :=
  o.throws = true ∧
    (o.implemented.contains m = false ∨ m ≠ .ofVerb .options ∧ o.factory.isSome = true)

theorem refusalSame {o : NegotiationOptions} {m : Method} {a b : MethodSet}
    (both : a = .empty ↔ b = .empty) :
    refusal o m a = refusal o m b ↔ a = b ∨ o.hidesMethods m := by
  have listed : ∀ {status : Http.Status} {body : Body},
      (⟨status, a.allowHeader, body⟩ : Response) = ⟨status, b.allowHeader, body⟩ ↔ a = b := by
    intro status body
    constructor
    · intro same
      exact MethodSet.allowHeaderInjective (Response.mk.inj same).2.1
    · rintro rfl
      rfl
  unfold refusal NegotiationOptions.hidesMethods
  cases implemented : o.implemented.contains m with
  | false =>
    cases throws : o.throws with
    | false => simp [listed]
    | true => simp
  | true =>
    by_cases none : a = .empty
    · have other := both.mp none
      simp [none, other]
    · have other := mt both.mpr none
      by_cases asks : m = .ofVerb .options
      · simp [none, other, asks, listed]
      · cases throws : o.throws with
        | false => simp [none, other, asks, listed]
        | true =>
          cases factory : o.factory with
          | none => simp [none, other, asks, listed]
          | some failure => simp [none, other, asks]

theorem mountedListsLast (routers : List (Router (Middleware σ))) (o : NegotiationOptions)
    (request : Request) (notes : σ)
    (miss : ∀ r ∈ routers, r.table.choose? request.method request.path = none) :
    let listed := routers.map fun r => r.table.allowedFor request.path
    let all := (Router.merge routers).table.allowedFor request.path
    let apart := ((mounted routers (Negotiation.ofOptions o)).dispatch request notes).1
    let merged := ((mounted [Router.merge routers] (Negotiation.ofOptions o)).dispatch
      request notes).1
    (∀ m, all.contains m = true ↔ ∃ r ∈ routers, ∃ route ∈ r.table,
        route.allows m = true ∧ route.pattern.isMatch request.path = true) ∧
      apart = refusal o request.method (MethodSet.lastListed listed) ∧
      merged = refusal o request.method all ∧
      (apart = merged ↔ MethodSet.lastListed listed = all ∨ o.hidesMethods request.method) := by
  intro listed all apart merged
  have table := Router.mergeTable routers
  have joined : ∀ r ∈ [Router.merge routers],
      r.table.choose? request.method request.path = none := by
    intro r member
    rw [List.mem_singleton.mp member, table, Table.missJoined]
    intro t inside
    obtain ⟨r, member, rfl⟩ := List.mem_map.mp inside
    exact miss r member
  have separately : apart = refusal o request.method (MethodSet.lastListed listed) :=
    mountedAnswer o notes miss
  have alone : MethodSet.lastListed [all] = all := by
    rw [MethodSet.lastListed, List.foldl_cons, List.foldl_nil, MethodSet.keepLast]
    split
    next none => exact (MethodSet.isEmptyExact.mp none).symm
    · rfl
  have together : merged = refusal o request.method all := by
    have answer := mountedAnswer o notes joined
    rw [List.map_singleton] at answer
    exact answer.trans (by rw [alone])
  have joinedSet : all = Table.allowedFor (routers.map Router.table).flatten request.path := by
    rw [← table]
  have both : MethodSet.lastListed listed = .empty ↔ all = .empty := by
    rw [MethodSet.lastListedEmpty, joinedSet, Table.allowedJoined]
    simp [listed]
  refine ⟨?_, separately, together, ?_⟩
  · intro m
    rw [joinedSet, Table.allowedContains]
    simp only [List.mem_flatten, List.mem_map]
    constructor
    · rintro ⟨route, ⟨_, ⟨r, member, rfl⟩, inside⟩, takes⟩
      exact ⟨r, member, route, inside, takes⟩
    · rintro ⟨r, member, route, inside, takes⟩
      exact ⟨route, ⟨_, ⟨r, member, rfl⟩, inside⟩, takes⟩
  · rw [separately, together]
    exact refusalSame both

/- Of a router for GET and one for POST behind it only POST is listed. -/
theorem firstRouterForgotten : ∃ p, Route.PathPattern.compile "/x" = .ok p ∧
    let handler : Middleware Unit := fun next ctx => next.run ctx
    let first : Router (Middleware Unit) := { table := [⟨p, .ofVerbs [.get], handler⟩] }
    let second : Router (Middleware Unit) := { table := [⟨p, .ofVerbs [.post], handler⟩] }
    let request : Request := { method := .ofVerb .delete, uri := ⟨"/x", none⟩ }
    (∀ r ∈ [first, second], r.table.choose? request.method request.path = none) ∧
      ((mounted [first, second] (Negotiation.ofOptions {})).dispatch request ()).1 =
        ⟨.methodNotAllowed, (MethodSet.ofVerbs [.post]).allowHeader, .empty⟩ ∧
      ((mounted [Router.merge [first, second]] (Negotiation.ofOptions {})).dispatch
        request ()).1 =
        ⟨.methodNotAllowed, (MethodSet.ofVerbs [.get, .post]).allowHeader, .empty⟩ := by
  refine ⟨_, rfl, ?_⟩
  intro handler first second request
  have miss : ∀ r ∈ [first, second], r.table.choose? request.method request.path = none := by
    intro r member
    simp only [List.mem_cons, List.not_mem_nil, or_false] at member
    rcases member with rfl | rfl <;> decide +kernel
  obtain ⟨_, apart, merged, _⟩ := mountedListsLast [first, second] {} request () miss
  refine ⟨miss, apart.trans ?_, merged.trans ?_⟩
  · decide +kernel
  · decide +kernel

end Chain
end Signpost
