import Mathlib.Tactic.Choose
import Signpost.Chain.Dispatch
import Signpost.Chain.Negotiation
import Signpost.Chain.Script
import Signpost.Proofs.Chain.Refusal

/-! What is recorded about a request while it runs through a chain. Any number of dispatchers
and negotiations may stand in the chain, and between them middlewares of any kind, as long as
they leave the records alone. The course of a run lists the contexts it goes through; each is
got from the one before by a step that keeps the records sound. -/
namespace Signpost
open Http (Body Failure Method Request)
open Route (Chosen Table)

namespace Route
variable {H K : Type}

def onHandler (f : H → K) (r : Route H) : Route K := ⟨r.pattern, r.methods, f r.handler⟩

namespace Chosen

def onHandler (f : H → K) (c : Chosen H) : Chosen K := ⟨c.route.onHandler f, c.values⟩

theorem longerOnHandler (f : H → K) (best c : Chosen H) :
    (best.onHandler f).longer (c.onHandler f) = (best.longer c).onHandler f :=
  (apply_ite (onHandler f) _ _ _).symm

theorem longestOnHandler (f : H → K) (cs : List (Chosen H)) :
    longest? (cs.map (onHandler f)) = (longest? cs).map (onHandler f) := by
  cases cs with
  | nil => rfl
  | cons c rest =>
    have fold : ∀ best : Chosen H, (rest.map (onHandler f)).foldl longer (best.onHandler f) =
        (rest.foldl longer best).onHandler f := by
      induction rest with
      | nil => exact fun best => rfl
      | cons d rest ih =>
        intro best
        rw [List.map_cons, List.foldl_cons, longerOnHandler, ih, List.foldl_cons]
    exact congrArg some (fold c)

end Chosen

namespace Table

theorem literalOnHandler (f : H → K) (routes : Table H) (m : Method) (path : String) :
    literal? (routes.map (onHandler f)) m path = (routes.literal? m path).map (onHandler f) := by
  rw [literal?, List.find?_map]
  rfl

theorem candidatesOnHandler (f : H → K) (routes : Table H) (m : Method) (path : String) :
    candidates (routes.map (onHandler f)) m path =
      (routes.candidates m path).map (Chosen.onHandler f) := by
  rw [candidates, List.filter_map, List.filterMap_map, candidates, List.map_filterMap]
  congr 1
  funext r
  simp only [Function.comp_apply, Option.map_map]
  rfl

/- The choice does not look at handlers. -/
theorem chooseOnHandler (f : H → K) (routes : Table H) (m : Method) (path : String) :
    choose? (routes.map (onHandler f)) m path =
      (routes.choose? m path).map (Chosen.onHandler f) := by
  rw [choose?, literalOnHandler, candidatesOnHandler, Chosen.longestOnHandler, choose?]
  cases routes.literal? m path <;> rfl

theorem allowedOnHandler (f : H → K) (routes : Table H) (path : String) :
    allowedFor (routes.map (onHandler f)) path = routes.allowedFor path := by
  rw [allowedFor, List.filter_map, List.foldl_map]
  rfl

end Table
end Route

namespace Chain
variable {σ : Type}

/- What a middleware does in one context: it leaves, or it runs the rest of the chain and goes
on with what that left. -/
inductive Conduct (σ : Type)
  | leave (out : Outcome σ)
  | proceed (ctx : Context σ) (resume : Outcome σ → Conduct σ)

/- A middleware that knows of the rest of the chain no more than its length and what running
it comes to. -/
abbrev Plan (σ : Type) := Nat → Context σ → Conduct σ

def Conduct.outcome (next : Next σ) : Conduct σ → Outcome σ
  | leave out => out
  | proceed ctx resume => (resume (next.run ctx)).outcome next

def Plan.middleware (plan : Plan σ) : Middleware σ := fun next ctx =>
  (plan next.remaining ctx).outcome next

/- The request method and what has been recorded about the request. -/
structure Records where
  method : Method
  matched : Option MatchedRoute
  pathMethods : Option MethodSet

def Context.records (ctx : Context σ) : Records := ⟨ctx.method, ctx.matched, ctx.pathMethods⟩

/- All changes of the records are left to the rest of the chain. -/
def Conduct.Keeps (records : Records) : Conduct σ → Prop
  | leave out => out.context.records = records
  | proceed ctx resume =>
    ctx.records = records ∧ ∀ out : Outcome σ, (resume out).Keeps out.context.records

def Plan.Keeps (plan : Plan σ) : Prop := ∀ count ctx, (plan count ctx).Keeps ctx.records

inductive Stage (σ : Type)
  | dispatch (routes : Table (Plan σ))
  | negotiate (n : Negotiation)
  | other (plan : Plan σ)

namespace Stage

def middleware : Stage σ → Middleware σ
  | dispatch routes => dispatchTo (routes.map (Route.onHandler Plan.middleware))
  | negotiate n => n.middleware
  | other plan => plan.middleware

def Keeps : Stage σ → Prop
  | dispatch routes => ∀ r ∈ routes, r.handler.Keeps
  | negotiate _ => True
  | other plan => plan.Keeps

def rest (stages : List (Stage σ)) : Next σ := .ofChain (stages.map middleware)

end Stage

/- A context on the way, and whether a route was entered or a negotiation answers in it. -/
inductive Moment (σ : Type)
  | passing (ctx : Context σ)
  | entered (ctx : Context σ)
  | answering (n : Negotiation) (ctx : Context σ)

def Moment.context : Moment σ → Context σ
  | passing ctx | entered ctx | answering _ ctx => ctx

/- The course of a conduct, given that of the rest of the chain. -/
def Conduct.course (next : Next σ) (rest : Context σ → List (Moment σ)) :
    Conduct σ → List (Moment σ)
  | leave out => [.passing out.context]
  | proceed ctx resume =>
    .passing ctx :: (rest ctx ++ (resume (next.run ctx)).course next rest)

def Stage.course (next : Next σ) (rest : Context σ → List (Moment σ)) :
    Stage σ → Context σ → List (Moment σ)
  | dispatch routes, ctx =>
    match routes.choose? ctx.method ctx.path with
    | some c =>
      let inside := ctx.enter (c.onHandler Plan.middleware)
      .entered inside :: (c.route.handler next.remaining inside).course next rest
    | none =>
      let behind := ctx.miss (routes.allowedFor ctx.path)
      .passing behind :: rest behind
  | negotiate n, ctx =>
    let out := next.run ctx
    rest ctx ++ match out.result with
      | .ok none =>
        if out.context.response.status = .notFound then
          [.answering n out.context, .passing (n.answer out.context).context]
        else []
      | _ => []
  | other plan, ctx => (plan next.remaining ctx).course next rest

def course : List (Stage σ) → Context σ → List (Moment σ)
  | [], _ => []
  | stage :: stages, ctx => stage.course (Stage.rest stages) (course stages) ctx

/- A recorded match allows the method and is a route of one of the tables; recorded methods
of a path are some, and the method is not among them. -/
structure Sound (stages : List (Stage σ)) (ctx : Context σ) : Prop where
  matched : ∀ m ∈ ctx.matched, m.methods.contains ctx.method = true ∧
    ∃ routes, .dispatch routes ∈ stages ∧ ∃ r ∈ routes, m.path = r.raw ∧ m.methods = r.methods
  pathMethods : ∀ s ∈ ctx.pathMethods, s ≠ .empty ∧ s.contains ctx.method = false

/- From a sound context to a sound one, and a match once recorded is not lost. -/
def Follows (stages : List (Stage σ)) (before after : Context σ) : Prop :=
  Sound stages before →
    Sound stages after ∧ (before.matched.isSome = true → after.matched.isSome = true)

theorem followsTrans {stages : List (Stage σ)} {a b c : Context σ} (first : Follows stages a b)
    (second : Follows stages b c) : Follows stages a c := by
  intro sound
  obtain ⟨between, kept⟩ := first sound
  obtain ⟨last, still⟩ := second between
  exact ⟨last, fun found => still (kept found)⟩

theorem followsSame {stages : List (Stage σ)} {before after : Context σ}
    (same : after.records = before.records) : Follows stages before after := by
  obtain ⟨method, matched, pathMethods⟩ := Records.mk.inj same
  intro sound
  refine ⟨⟨?_, ?_⟩, by rw [matched]; exact id⟩
  · rw [matched, method]
    exact sound.matched
  · rw [pathMethods, method]
    exact sound.pathMethods

/- Where a route is entered there is a match. -/
def Moment.Marked : Moment σ → Prop
  | entered ctx => ctx.matched.isSome = true
  | passing _ | answering _ _ => True

/- The way from one context through some moments to a last context. -/
inductive Leads (stages : List (Stage σ)) : Context σ → List (Moment σ) → Context σ → Prop
  | here (ctx) : Leads stages ctx [] ctx
  | step {ctx moment moments last} (follows : Follows stages ctx moment.context)
      (marked : moment.Marked) (rest : Leads stages moment.context moments last) :
      Leads stages ctx (moment :: moments) last

theorem leadsAppend {stages : List (Stage σ)} {a b c : Context σ} {first second}
    (one : Leads stages a first b) (other : Leads stages b second c) :
    Leads stages a (first ++ second) c := by
  induction one with
  | here ctx => exact other
  | step follows marked rest ih => exact .step follows marked (ih other)

theorem leadsFollows {stages : List (Stage σ)} {a b : Context σ} {moments}
    (leads : Leads stages a moments b) : ∀ moment ∈ moments, Follows stages a moment.context := by
  induction leads with
  | here ctx => exact fun moment member => nomatch member
  | step follows marked rest ih =>
    intro moment member
    rcases List.mem_cons.mp member with rfl | member
    · exact follows
    · exact followsTrans follows (ih moment member)

theorem leadsPairs {stages : List (Stage σ)} {a b : Context σ} {moments}
    (leads : Leads stages a moments b) :
    moments.Pairwise fun first second => Follows stages first.context second.context := by
  induction leads with
  | here ctx => exact .nil
  | step follows marked rest ih => exact .cons (leadsFollows rest) ih

theorem leadsMarked {stages : List (Stage σ)} {a b : Context σ} {moments}
    (leads : Leads stages a moments b) : ∀ moment ∈ moments, moment.Marked := by
  induction leads with
  | here ctx => exact fun moment member => nomatch member
  | step follows marked rest ih => exact List.forall_mem_cons.mpr ⟨marked, ih⟩

theorem leadsLast {stages : List (Stage σ)} {a b : Context σ} {moments}
    (leads : Leads stages a moments b) :
    ((moments.getLast?.map Moment.context).getD a) = b := by
  induction leads with
  | here ctx => rfl
  | step follows marked rest ih =>
    rw [List.getLast?_cons, Option.map_some, Option.getD_some, ← Option.getD_map Moment.context]
    exact ih

theorem claimFoundRecords (ctx : Context σ) : ctx.claimFound.records = ctx.records := by
  unfold Context.claimFound
  split <;> rfl

theorem enterRecords (ctx : Context σ) (c : Chosen (Middleware σ)) :
    (ctx.enter c).records =
      ⟨ctx.method, some ⟨c.route.raw, c.route.methods, c.slugs⟩, ctx.pathMethods⟩ :=
  claimFoundRecords _

theorem followsEnter {stages : List (Stage σ)} {routes : Table (Plan σ)} {ctx : Context σ}
    {c : Chosen (Plan σ)} (member : .dispatch routes ∈ stages)
    (chosen : routes.choose? ctx.method ctx.path = some c) :
    Follows stages ctx (ctx.enter (c.onHandler Plan.middleware)) ∧
      (ctx.enter (c.onHandler Plan.middleware)).matched.isSome = true := by
  obtain ⟨inside, allows, _⟩ := Table.chosenFits chosen
  obtain ⟨method, matched, pathMethods⟩ := Records.mk.inj
    (enterRecords ctx (c.onHandler Plan.middleware))
  refine ⟨fun sound => ⟨⟨?_, ?_⟩, fun _ => by rw [matched]; rfl⟩, by rw [matched]; rfl⟩
  · rw [matched, method]
    intro m given
    cases given
    exact ⟨allows, routes, member, c.route, inside, rfl, rfl⟩
  · rw [pathMethods, method]
    exact sound.pathMethods

theorem followsMiss {stages : List (Stage σ)} {routes : Table (Plan σ)} {ctx : Context σ}
    (missed : routes.choose? ctx.method ctx.path = none) :
    Follows stages ctx (ctx.miss (routes.allowedFor ctx.path)) := by
  unfold Context.miss
  split
  · exact followsSame rfl
  next some =>
    intro sound
    refine ⟨⟨sound.matched, ?_⟩, id⟩
    intro s given
    cases given
    exact ⟨fun none => some (MethodSet.isEmptyExact.mpr none), Table.missExcludes missed⟩

theorem answerRecords (n : Negotiation) (ctx : Context σ) :
    (n.answer ctx).context.records = ctx.records := by
  unfold Negotiation.answer
  simp only [respondWrites]
  repeat' split
  all_goals rfl

theorem conductLeads {stages : List (Stage σ)} {next : Next σ}
    {rest : Context σ → List (Moment σ)}
    (leads : ∀ ctx, Leads stages ctx (rest ctx) (next.run ctx).context) (conduct : Conduct σ)
    {ctx : Context σ} (keeps : conduct.Keeps ctx.records) :
    Leads stages ctx (conduct.course next rest) (conduct.outcome next).context := by
  induction conduct generalizing ctx with
  | leave out => exact .step (followsSame keeps) trivial (.here _)
  | proceed inner resume ih =>
    obtain ⟨same, later⟩ := keeps
    exact .step (followsSame same) trivial (leadsAppend (leads inner) (ih _ (later _)))

theorem stageLeads {stages : List (Stage σ)} {next : Next σ} {rest : Context σ → List (Moment σ)}
    (leads : ∀ ctx, Leads stages ctx (rest ctx) (next.run ctx).context) {stage : Stage σ}
    (member : stage ∈ stages) (keeps : stage.Keeps) (ctx : Context σ) :
    Leads stages ctx (stage.course next rest ctx) (stage.middleware next ctx).context := by
  cases stage with
  | dispatch routes =>
    simp only [Stage.course, Stage.middleware, dispatchTo, Table.chooseOnHandler,
      Table.allowedOnHandler]
    cases chosen : routes.choose? ctx.method ctx.path with
    | some c =>
      have handler := keeps c.route (Table.chosenFits chosen).1
      obtain ⟨follows, found⟩ := followsEnter member chosen
      exact .step follows found (conductLeads leads _ (handler _ _))
    | none => exact .step (followsMiss chosen) trivial (leads _)
  | negotiate n =>
    simp only [Stage.course, Stage.middleware, Negotiation.middleware]
    have untouched : Leads stages ctx (rest ctx ++ []) (next.run ctx).context :=
      leadsAppend (leads ctx) (.here _)
    cases (next.run ctx).result with
    | error failure => exact untouched
    | ok value =>
      cases value with
      | some body => exact untouched
      | none =>
        simp only
        split
        · exact leadsAppend (leads ctx)
            (.step (followsSame rfl) trivial
              (.step (followsSame (answerRecords n _)) trivial (.here _)))
        · exact untouched
  | other plan => exact conductLeads leads _ (keeps _ _)

theorem courseLeads {stages : List (Stage σ)} (keeps : ∀ stage ∈ stages, stage.Keeps)
    (ctx : Context σ) :
    Leads stages ctx (course stages ctx) ((Stage.rest stages).run ctx).context := by
  have part : ∀ later, later ⊆ stages → ∀ ctx,
      Leads stages ctx (course later ctx) ((Stage.rest later).run ctx).context := by
    intro later
    induction later with
    | nil => exact fun _ ctx => .here ctx
    | cons stage later ih =>
      intro inside ctx
      have member := inside List.mem_cons_self
      exact stageLeads (ih fun s m => inside (List.mem_cons_of_mem _ m)) member
        (keeps stage member) ctx
  exact part stages (List.Subset.refl stages) ctx

/- The answer does not refuse the method: no such refusal is reported, no such status is
written, and a failure is raised only for a method that is not implemented. -/
structure Spares (n : Negotiation) (ctx : Context σ) : Prop where
  log : ∀ path allow, .notAllowed ctx.method path allow ∈ (n.answer ctx).context.log →
    .notAllowed ctx.method path allow ∈ ctx.log
  status : (n.answer ctx).context.response.status = .methodNotAllowed →
    ctx.response.status = .methodNotAllowed
  failure : ∀ failure, (n.answer ctx).result = .error failure →
    n.implemented.contains ctx.method = false

theorem matchSpared {stages : List (Stage σ)} {ctx : Context σ} (sound : Sound stages ctx)
    (found : ctx.matched.isSome = true) (n : Negotiation) : Spares n ctx := by
  obtain ⟨m, given⟩ := Option.isSome_iff_exists.mp found
  obtain ⟨allows, _⟩ := sound.matched m given
  have known : (Negotiation.allowed ctx).contains ctx.method = true := by
    simpa [Negotiation.allowed, given] using allows
  constructor
  · intro path allow
    unfold Negotiation.answer
    simp only [respondWrites, known, if_true]
    repeat' split
    all_goals simp [Context.emit, Context.setBody]
  · unfold Negotiation.answer
    simp only [respondWrites, known, if_true]
    repeat' split
    all_goals
      intro answered
      first | exact answered | cases answered
  · intro failure
    unfold Negotiation.answer
    simp only [respondWrites, known, if_true]
    repeat' split
    all_goals simp_all

namespace Script
variable {α : Type}

theorem headerRecords {ctx after : Context (Notes α)} {name : String} {values : List String}
    (set : setHeader ctx name values = .ok after) : after.records = ctx.records := by
  unfold setHeader at set
  repeat' split at set
  all_goals cases set
  rfl

/- What a script does depends on the rest of the chain by its length and its outcomes alone,
and all that it changes itself lies outside of the records. -/
theorem runPlanned (count : Nat) (acts : List (Act α)) :
    ∀ (value : Option Body) (ctx : Context (Notes α)), ∃ conduct : Conduct (Notes α),
      conduct.Keeps ctx.records ∧
        ∀ next : Next (Notes α), next.remaining = count →
          run next acts value ctx = conduct.outcome next := by
  induction acts with
  | nil => exact fun value ctx => ⟨.leave ⟨.ok value, ctx⟩, rfl, fun _ _ => rfl⟩
  | cons act rest ih =>
    intro value ctx
    have failing : ∀ failure, (∀ next : Next (Notes α),
        run next (act :: rest) value ctx = ⟨.error failure, ctx⟩) →
        ∃ conduct : Conduct (Notes α), conduct.Keeps ctx.records ∧
          ∀ next : Next (Notes α), next.remaining = count →
            run next (act :: rest) value ctx = conduct.outcome next :=
      fun failure fails => ⟨.leave ⟨.error failure, ctx⟩, rfl, fun next _ => fails next⟩
    cases act with
    | say v => exact ih value (note ctx (.said v))
    | value text => exact ih (text.map Body.ofText) ctx
    | slugValue name => exact ih ((ctx.request.slugs.get? name).map Body.ofText) ctx
    | targetValue => exact ih (some (.ofText (ctx.method.name ++ " " ++ ctx.path))) ctx
    | status code =>
      cases read : Http.Status.ofNat? code with
      | none => exact failing _ fun next => by rw [run, read]
      | some status =>
        obtain ⟨conduct, keeps, same⟩ := ih value (ctx.setStatus status)
        exact ⟨conduct, keeps, fun next count => by rw [run, read]; exact same next count⟩
    | body text => exact ih value (ctx.setBody (.ofText text))
    | header name values =>
      cases set : setHeader ctx name values with
      | error failure => exact failing _ fun next => by rw [run, set]
      | ok after =>
        obtain ⟨conduct, keeps, same⟩ := ih value after
        exact ⟨conduct, headerRecords set ▸ keeps,
          fun next count => by rw [run, set]; exact same next count⟩
    | slugs pairs => exact ih value (ctx.setSlugs (.ofPairs pairs))
    | next =>
      choose go keeps same using ih
      refine ⟨.proceed ctx fun out => match out with
        | ⟨.ok value, ctx⟩ => go value (note ctx (.ran value ctx.response.status))
        | ⟨.error _, _⟩ => .leave out, ⟨rfl, ?_⟩, fun next remaining => ?_⟩
      · rintro ⟨_ | value, after⟩
        · exact rfl
        · exact keeps _ (note after _)
      · rw [run, Conduct.outcome]
        rcases next.run ctx with ⟨_ | value, after⟩
        · rfl
        · exact same _ _ next remaining
    | recover =>
      choose go keeps same using ih
      refine ⟨.proceed ctx fun out => match out with
        | ⟨.ok value, ctx⟩ => go value ctx
        | ⟨.error f, ctx⟩ => go value (note ctx (.caught f)), ⟨rfl, ?_⟩, fun next remaining => ?_⟩
      · rintro ⟨failure | value, after⟩
        · exact keeps _ (note after _)
        · exact keeps _ _
      · rw [run, Conduct.outcome]
        rcases next.run ctx with ⟨_ | value, after⟩ <;> exact same _ _ next remaining
    | finish => exact ih none ctx
    | noteRemaining =>
      obtain ⟨conduct, keeps, same⟩ := ih value
        (note ctx (.remaining count (Text.shownRecord "Next" [("remaining", toString count)])))
      refine ⟨conduct, keeps, fun next remaining => ?_⟩
      rw [← same next remaining, run, Next.shown, remaining]
    | noteState => exact ih value (note ctx (state ctx))
    | fail text => exact failing _ fun next => rfl
    | failHttp spec => exact failing _ fun next => rfl

theorem planned (acts : List (Act α)) : ∃ plan : Plan (Notes α), plan.Keeps ∧
    middleware acts = plan.middleware := by
  choose plan keeps same using fun count => runPlanned count acts none
  exact ⟨plan, keeps, funext fun next => funext fun ctx => same next.remaining ctx next rfl⟩

end Script

/- The course ends where the run ends, goes through sound contexts only, and a route once
entered is on record from there on, so that no negotiation behind it refuses the method. -/
theorem recordsSound (stages : List (Stage σ)) (keeps : ∀ stage ∈ stages, stage.Keeps)
    (request : Request) (notes : σ) :
    let start : Context σ := { request, notes }
    let moments := course stages start
    (moments.getLast?.map Moment.context).getD start =
        ((Next.ofChain (stages.map Stage.middleware)).run start).context ∧
      (∀ moment ∈ moments, Sound stages moment.context) ∧
      moments.Pairwise fun before after =>
        (before.context.matched.isSome = true → after.context.matched.isSome = true) ∧
          ∀ ctx n ctx', before = .entered ctx → after = .answering n ctx' → Spares n ctx' := by
  intro start moments
  have leads := courseLeads keeps start
  have new : Sound stages start :=
    { matched := fun _ given => by cases given
      pathMethods := fun _ given => by cases given }
  have sound : ∀ moment ∈ moments, Sound stages moment.context :=
    fun moment member => (leadsFollows leads moment member new).1
  refine ⟨leadsLast leads, sound, ?_⟩
  refine (leadsPairs leads).imp_of_mem fun {before after} first second follows => ?_
  obtain ⟨later, kept⟩ := follows (sound before first)
  refine ⟨kept, ?_⟩
  rintro ctx n ctx' rfl rfl
  exact matchSpared later (kept (leadsMarked leads _ first)) n

/- A handler hides each of two visits behind a status that the negotiation answers to, and
still the negotiation leaves the response as it is. -/
theorem hiddenMatchSpared : ∃ p, Route.PathPattern.compile "/x" = .ok p ∧
    let hide : Plan Unit := fun _ ctx => .leave ⟨.ok none, ctx.setStatus .notFound⟩
    let twice : Plan Unit := fun _ ctx => .proceed ctx fun out => .proceed out.context .leave
    let stages : List (Stage Unit) :=
      [.negotiate (.ofOptions {}), .other twice, .dispatch [⟨p, .ofVerbs [.get], hide⟩]]
    let request : Request := { method := .ofVerb .get, uri := ⟨"/x", none⟩ }
    let moments := course stages { request, notes := () }
    (∀ stage ∈ stages, stage.Keeps) ∧
      (∀ moment ∈ moments, Sound stages moment.context) ∧
      moments.map (fun m => (m.context.matched.isSome, m.context.response.status)) =
        [(false, .notFound), (true, .ok), (true, .notFound), (true, .notFound), (true, .ok),
          (true, .notFound), (true, .notFound), (true, .notFound), (true, .notFound)] ∧
      ((Next.ofChain (stages.map Stage.middleware)).run
        { request, notes := () }).context.response.status = .notFound := by
  refine ⟨_, rfl, ?_⟩
  intro hide twice stages request moments
  have keeps : ∀ stage ∈ stages, stage.Keeps := by
    intro stage member
    simp only [stages, List.mem_cons, List.not_mem_nil, or_false] at member
    rcases member with rfl | rfl | rfl
    · exact trivial
    · exact fun count ctx => ⟨rfl, fun out => ⟨rfl, fun last => rfl⟩⟩
    · intro r inside count ctx
      cases List.mem_singleton.mp inside
      exact rfl
  obtain ⟨last, sound, _⟩ := recordsSound stages keeps request ()
  refine ⟨keeps, sound, by decide +kernel, ?_⟩
  rw [← last]
  decide +kernel

end Chain
end Signpost
