import Signpost.Chain.Pipeline
import Signpost.Proofs.Chain.Commuting
import Signpost.Proofs.Chain.Records

/-! The order in which a chain runs. A middleware is left after all that it ran in between, so the
chain is entered from the front and left from the back. What stands behind a middleware that does
not run the rest of the chain decides nothing. The middlewares of a run are given as plans, which
say when the rest is run and not only what comes of it; dispatchers, negotiations and scripts all
have plans. -/
namespace Signpost.Chain
open Route (Chosen Table)
variable {σ : Type}

inductive Addition (σ : Type)
  | first (m : Middleware σ)
  | last (m : Middleware σ)

namespace Addition

def first? : Addition σ → Option (Middleware σ)
  | first m => some m
  | last _ => none

def last? : Addition σ → Option (Middleware σ)
  | first _ => none
  | last m => some m

end Addition

namespace Builder

def add (b : Builder σ) : Addition σ → Builder σ
  | .first m => b.addFirst m
  | .last m => b.addLast m

def ofAdditions (additions : List (Addition σ)) : Builder σ := additions.foldl add {}

theorem addedAround (b : Builder σ) (additions : List (Addition σ)) :
    (additions.foldl add b).chain = (additions.filterMap Addition.first?).reverse ++
      (b.chain ++ additions.filterMap Addition.last?) := by
  induction additions generalizing b with
  | nil => simp
  | cons a rest ih =>
    rw [List.foldl_cons, ih]
    cases a with
    | first m =>
      simp [add, addFirst, List.filterMap_cons, Addition.first?, Addition.last?]
    | last m =>
      simp [add, addLast, List.filterMap_cons, Addition.first?, Addition.last?]

end Builder

namespace Plan

def dispatch (routes : Table (Plan σ)) : Plan σ := fun count ctx =>
  match routes.choose? ctx.method ctx.path with
  | some c => c.route.handler count (ctx.enter (c.onHandler Plan.middleware))
  | none => .proceed (ctx.miss (routes.allowedFor ctx.path)) .leave

def negotiate (n : Negotiation) : Plan σ := fun _ ctx =>
  .proceed ctx fun out => .leave (n.settle out)

theorem dispatchMiddleware (routes : Table (Plan σ)) :
    (dispatch routes).middleware = dispatchTo (routes.map (Route.onHandler Plan.middleware)) := by
  funext next ctx
  simp only [middleware, dispatch, dispatchTo, Table.chooseOnHandler, Table.allowedOnHandler]
  cases routes.choose? ctx.method ctx.path <;> rfl

theorem negotiateMiddleware (n : Negotiation) :
    (negotiate n : Plan σ).middleware = n.middleware := rfl

/- The plan does not ask how many middlewares there are behind it. -/
def Blind (plan : Plan σ) : Prop := ∀ count count' ctx, plan count ctx = plan count' ctx

theorem negotiateBlind (n : Negotiation) : (negotiate n : Plan σ).Blind := fun _ _ _ => rfl

theorem dispatchBlind {routes : Table (Plan σ)} (blind : ∀ r ∈ routes, r.handler.Blind) :
    (dispatch routes).Blind := by
  intro count count' ctx
  unfold dispatch
  split
  next c chosen => exact blind c.route (Table.chosenFits chosen).1 count count' _
  · rfl

end Plan

/- A step of a run, with the place of the middleware that takes it. -/
inductive Mark
  | enter (place : Nat)
  | proceed (place : Nat)
  | leave (place : Nat)
  deriving DecidableEq, Repr

def Mark.place : Mark → Nat
  | enter place | proceed place | leave place => place

/- A run under observation. -/
structure Watched (σ : Type) where
  outcome : Outcome σ
  marks : List Mark

def Conduct.watched (place : Nat) (rest : Context σ → Watched σ) : Conduct σ → Watched σ
  | leave out => ⟨out, [.leave place]⟩
  | proceed ctx resume =>
    let inner := rest ctx
    let later := (resume inner.outcome).watched place rest
    ⟨later.outcome, .proceed place :: (inner.marks ++ later.marks)⟩

/- The run of some plans, which count from the place, in front of any other middlewares. Those
leave no marks. -/
def watched (rest : List (Middleware σ)) (place : Nat) : List (Plan σ) → Context σ → Watched σ
  | [], ctx => ⟨(Next.ofChain rest).run ctx, []⟩
  | plan :: plans, ctx =>
    let conduct := plan (plans.length + rest.length) ctx
    let run := conduct.watched place (watched rest (place + 1) plans)
    ⟨run.outcome, .enter place :: run.marks⟩

theorem conductOutcome {place : Nat} {next : Next σ} {rest : Context σ → Watched σ}
    (same : ∀ ctx, (rest ctx).outcome = next.run ctx) (conduct : Conduct σ) :
    (conduct.watched place rest).outcome = conduct.outcome next := by
  induction conduct with
  | leave out => rfl
  | proceed ctx resume ih =>
    rw [Conduct.outcome, ← same]
    exact ih _

/- The observation does not disturb. -/
theorem watchedOutcome (rest : List (Middleware σ)) (place : Nat) (plans : List (Plan σ))
    (ctx : Context σ) : (watched rest place plans ctx).outcome =
      (Next.ofChain (plans.map Plan.middleware ++ rest)).run ctx := by
  induction plans generalizing place ctx with
  | nil => rfl
  | cons plan plans ih =>
    have count : (Next.ofChain (plans.map Plan.middleware ++ rest)).remaining =
        plans.length + rest.length := by simp
    rw [List.map_cons, List.cons_append, Next.runOfChainCons, Plan.middleware, count]
    exact conductOutcome (ih _) _

theorem conductMarks {place : Nat} {rest : Context σ → Watched σ} {p : Mark → Prop}
    (inside : ∀ ctx, ∀ mark ∈ (rest ctx).marks, p mark) (proceeds : p (.proceed place))
    (leaves : p (.leave place)) (conduct : Conduct σ) :
    ∀ mark ∈ (conduct.watched place rest).marks, p mark := by
  induction conduct with
  | leave out => exact List.forall_mem_singleton.mpr leaves
  | proceed ctx resume ih =>
    exact List.forall_mem_cons.mpr
      ⟨proceeds, List.forall_mem_append.mpr ⟨inside ctx, ih _⟩⟩

theorem watchedPlaces {rest : List (Middleware σ)} {place : Nat} {plans : List (Plan σ)}
    {ctx : Context σ} : ∀ mark ∈ (watched rest place plans ctx).marks, place ≤ mark.place := by
  induction plans generalizing place ctx with
  | nil => exact fun mark member => nomatch member
  | cons plan plans ih =>
    have behind : ∀ ctx, ∀ mark ∈ (watched rest (place + 1) plans ctx).marks,
        place ≤ mark.place := fun ctx mark member => Nat.le_of_succ_le (ih mark member)
    exact List.forall_mem_cons.mpr
      ⟨Nat.le_refl place, conductMarks behind (Nat.le_refl place) (Nat.le_refl place) _⟩

/- All places are entered, from the front to the back, and then left from the back to the front. -/
def nested (place count : Nat) : List Mark :=
  (List.range' place count).flatMap (fun i => [.enter i, .proceed i]) ++
    (List.range' place count).reverse.map .leave

theorem nestedSucc (place count : Nat) : nested place (count + 1) =
    .enter place :: .proceed place :: (nested (place + 1) count ++ [.leave place]) := by
  simp [nested, List.range'_succ]

theorem nestedPlaces {place count : Nat} : ∀ mark ∈ nested place count, place ≤ mark.place := by
  intro mark member
  simp only [nested, List.mem_append, List.mem_flatMap, List.mem_cons, List.not_mem_nil, or_false,
    List.mem_map, List.mem_reverse, List.mem_range'_1] at member
  rcases member with ⟨i, bounds, rfl | rfl⟩ | ⟨i, bounds, rfl⟩ <;> exact bounds.1

theorem nestedCount (place : Nat) {count i : Nat} (inside : i < count) :
    (nested place count).count (.proceed (place + i)) = 1 := by
  induction count generalizing place i with
  | zero => cases inside
  | succ count ih =>
    rw [nestedSucc]
    cases i with
    | zero =>
      have absent : Mark.proceed place ∉ nested (place + 1) count :=
        fun member => Nat.not_succ_le_self place (nestedPlaces _ member)
      simp [List.count_eq_zero_of_not_mem absent]
    | succ i =>
      have later := ih (place + 1) (Nat.lt_of_succ_lt_succ inside)
      rw [show place + 1 + i = place + (i + 1) by omega] at later
      simp [later]

theorem conductOnce {place : Nat} {rest : Context σ → Watched σ} {conduct : Conduct σ}
    (absent : ∀ ctx, .proceed place ∉ (rest ctx).marks)
    (once : (conduct.watched place rest).marks.count (.proceed place) = 1) :
    ∃ ctx, (conduct.watched place rest).marks =
      .proceed place :: ((rest ctx).marks ++ [.leave place]) := by
  cases conduct with
  | leave out => simp [Conduct.watched] at once
  | proceed ctx resume =>
    refine ⟨ctx, ?_⟩
    have inside := List.count_eq_zero_of_not_mem (absent ctx)
    simp only [Conduct.watched] at once ⊢
    cases later : resume (rest ctx).outcome with
    | leave out => rfl
    | proceed ctx' resume' =>
      rw [later] at once
      simp [Conduct.watched, inside] at once

theorem watchedNested {rest : List (Middleware σ)} {place : Nat} {plans : List (Plan σ)}
    {ctx : Context σ} (once : ∀ i < plans.length,
      (watched rest place plans ctx).marks.count (.proceed (place + i)) = 1) :
    (watched rest place plans ctx).marks = nested place plans.length := by
  induction plans generalizing place ctx with
  | nil => rfl
  | cons plan plans ih =>
    have absent : ∀ ctx, .proceed place ∉ (watched rest (place + 1) plans ctx).marks :=
      fun ctx member => Nat.not_succ_le_self place (watchedPlaces _ member)
    have first : ((plan (plans.length + rest.length) ctx).watched place
        (watched rest (place + 1) plans)).marks.count (.proceed place) = 1 := by
      simpa [watched] using once 0 (Nat.succ_pos _)
    obtain ⟨inner, run⟩ := conductOnce absent first
    have marks : (watched rest place (plan :: plans) ctx).marks = .enter place :: .proceed place ::
        ((watched rest (place + 1) plans inner).marks ++ [.leave place]) :=
      congrArg (Mark.enter place :: ·) run
    have behind : ∀ i < plans.length,
        (watched rest (place + 1) plans inner).marks.count (.proceed (place + 1 + i)) = 1 := by
      intro i bound
      have later := once (i + 1) (Nat.succ_lt_succ bound)
      rw [marks, show place + (i + 1) = place + 1 + i by omega] at later
      simpa [show place ≠ place + 1 + i by omega] using later
    rw [marks, ih behind, List.length_cons, nestedSucc]

/- The rest of the chain is run once, whatever comes of it. -/
def Conduct.Once : Conduct σ → Prop
  | leave _ => False
  | proceed _ resume => ∀ out, ∃ last, resume out = leave last

def Plan.Once (plan : Plan σ) : Prop := ∀ count ctx, (plan count ctx).Once

theorem onceNested {rest : List (Middleware σ)} {place : Nat} {plans : List (Plan σ)}
    {ctx : Context σ} (once : ∀ plan ∈ plans, plan.Once) :
    (watched rest place plans ctx).marks = nested place plans.length := by
  induction plans generalizing place ctx with
  | nil => rfl
  | cons plan plans ih =>
    obtain ⟨first, others⟩ := List.forall_mem_cons.mp once
    have here := first (plans.length + rest.length) ctx
    rw [List.length_cons, nestedSucc, watched]
    cases conduct : plan (plans.length + rest.length) ctx with
    | leave out =>
      rw [conduct] at here
      exact here.elim
    | proceed inner resume =>
      rw [conduct] at here
      obtain ⟨last, leaves⟩ := here (watched rest (place + 1) plans inner).outcome
      simp only [Conduct.watched, leaves, ih others]

theorem conductSilent {place : Nat} {rest : Context σ → Watched σ} {conduct : Conduct σ}
    (silent : .proceed place ∉ (conduct.watched place rest).marks)
    (others : Context σ → Watched σ) :
    conduct.watched place others = conduct.watched place rest := by
  cases conduct with
  | leave out => rfl
  | proceed ctx resume => exact absurd List.mem_cons_self silent

theorem conductAlike {place : Nat} {mark : Mark} {rest others : Context σ → Watched σ}
    (alike : ∀ ctx, mark ∉ (rest ctx).marks → others ctx = rest ctx) {conduct : Conduct σ}
    (silent : mark ∉ (conduct.watched place rest).marks) :
    conduct.watched place others = conduct.watched place rest := by
  induction conduct with
  | leave out => rfl
  | proceed ctx resume ih =>
    simp only [Conduct.watched, List.mem_cons, List.mem_append, not_or] at silent
    obtain ⟨-, inside, later⟩ := silent
    simp only [Conduct.watched, alike ctx inside, ih _ later]

theorem watchedAlike (rest others : List (Middleware σ)) {place : Nat} {front : List (Plan σ)}
    {plan : Plan σ} {ctx : Context σ} (blind : ∀ p ∈ front ++ [plan], p.Blind)
    (silent : .proceed (place + front.length) ∉ (watched rest place (front ++ [plan]) ctx).marks) :
    watched others place (front ++ [plan]) ctx = watched rest place (front ++ [plan]) ctx := by
  induction front generalizing place ctx with
  | nil =>
    have same := blind plan (List.mem_singleton.mpr rfl) (0 + others.length) (0 + rest.length) ctx
    simp only [List.nil_append, List.length_nil, watched, List.mem_cons, not_or] at silent ⊢
    rw [same, conductSilent silent.2]
  | cons first front ih =>
    obtain ⟨here, behind⟩ := List.forall_mem_cons.mp blind
    have same := here ((front ++ [plan]).length + others.length)
      ((front ++ [plan]).length + rest.length) ctx
    simp only [List.cons_append, watched, List.mem_cons, not_or] at silent ⊢
    have inside : ∀ ctx, .proceed (place + (first :: front).length) ∉
        (watched rest (place + 1) (front ++ [plan]) ctx).marks →
          watched others (place + 1) (front ++ [plan]) ctx =
            watched rest (place + 1) (front ++ [plan]) ctx := by
      intro ctx absent
      rw [List.length_cons, show place + (front.length + 1) = place + 1 + front.length by omega]
        at absent
      exact ih behind absent
    rw [same, conductAlike inside silent.2]

/- The last of the plans does not run what is behind it in the one run, and so it is the same run
with anything else behind. -/
theorem chainRunsInOrder (additions : List (Addition σ)) :
    let chain := (Builder.ofAdditions additions).build.chain
    chain = (additions.filterMap Addition.first?).reverse ++
        additions.filterMap Addition.last? ∧
      (∀ plans : List (Plan σ), chain = plans.map Plan.middleware → ∀ ctx,
        let run := watched [] 0 plans ctx
        run.outcome = (Next.ofChain chain).run ctx ∧
          ((∀ place < plans.length, run.marks.count (.proceed place) = 1) ↔
            run.marks = nested 0 plans.length) ∧
          ((∀ plan ∈ plans, plan.Once) → run.marks = nested 0 plans.length)) ∧
      ∀ (front : List (Plan σ)) (plan : Plan σ) (rest : List (Middleware σ)),
        chain = (front ++ [plan]).map Plan.middleware ++ rest →
        (∀ p ∈ front ++ [plan], p.Blind) → ∀ ctx,
        .proceed front.length ∉ (watched rest 0 (front ++ [plan]) ctx).marks →
        ∀ others, (Next.ofChain ((front ++ [plan]).map Plan.middleware ++ others)).run ctx =
          (Next.ofChain chain).run ctx := by
  intro chain
  refine ⟨Builder.addedAround {} additions, ?_, ?_⟩
  · intro plans same ctx run
    refine ⟨?_, ⟨fun once => ?_, fun marks place inside => ?_⟩, onceNested⟩
    · rw [same, ← List.append_nil (plans.map Plan.middleware)]
      exact watchedOutcome [] 0 plans ctx
    · exact watchedNested fun i inside => by rw [Nat.zero_add]; exact once i inside
    · have counted := nestedCount 0 inside
      rwa [marks, ← Nat.zero_add place]
  · intro front plan rest same blind ctx silent others
    have alike := watchedAlike rest others blind (by rwa [Nat.zero_add])
    rw [same, ← watchedOutcome rest 0, ← watchedOutcome others 0, alike]

/- The negotiation and the router behind it are gone through where no route takes the request. A
route that takes it closes the chain. -/
theorem routeClosesChain : ∃ p, Route.PathPattern.compile "/a" = .ok p ∧
    let answer : Plan Unit := fun _ ctx => .leave ⟨.ok (some (.ofText "a")), ctx⟩
    let routes : Table (Plan Unit) := [⟨p, .ofVerbs [.get], answer⟩]
    let router : Middleware Unit := dispatchTo (routes.map (Route.onHandler Plan.middleware))
    let n : Negotiation := .ofOptions {}
    let additions : List (Addition Unit) := [.last router, .first n.middleware]
    let asks (v : Http.Verb) : Context Unit :=
      { request := { method := .ofVerb v, uri := ⟨"/a", none⟩ }, notes := () }
    let plans : List (Plan Unit) := [.negotiate n, .dispatch routes]
    (Builder.ofAdditions additions).build.chain = [n.middleware, router] ∧
      (watched [] 0 plans (asks .delete)).marks =
        [.enter 0, .proceed 0, .enter 1, .proceed 1, .leave 1, .leave 0] ∧
      ∀ others, ((Next.ofChain (n.middleware :: router :: others)).run (asks .get)).result =
        .ok (some (.ofText "a")) := by
  refine ⟨_, rfl, ?_⟩
  intro answer routes router n additions asks plans
  have planned : plans.map Plan.middleware = [n.middleware, router] := by
    simp only [plans, List.map_cons, List.map_nil, Plan.negotiateMiddleware,
      Plan.dispatchMiddleware, router]
  have blind : ∀ p ∈ plans, p.Blind := by
    intro p member
    simp only [plans, List.mem_cons, List.not_mem_nil, or_false] at member
    rcases member with rfl | rfl
    · exact Plan.negotiateBlind n
    · refine Plan.dispatchBlind fun r inside => ?_
      cases List.mem_singleton.mp inside
      exact fun _ _ _ => rfl
  obtain ⟨built, through, short⟩ := chainRunsInOrder additions
  refine ⟨built, ?_, fun others => ?_⟩
  · refine (through plans planned.symm (asks .delete)).2.1.mp ?_
    decide +kernel
  · have closed := short [.negotiate n] (.dispatch routes) [] planned.symm blind (asks .get)
      (by decide +kernel) others
    have front : ([Plan.negotiate n] ++ [Plan.dispatch routes]).map Plan.middleware ++ others =
        n.middleware :: router :: others := congrArg (· ++ others) planned
    rw [← front, closed]
    decide +kernel

end Signpost.Chain
