import Signpost.Proofs.Router.Registration

/-! Routes that controllers declare, and routes that are added one by one. A list of controllers
is registered as a whole or not at all. As a whole it comes to the calls, one after the other,
that add its actions to a router without a prefix. -/
namespace Signpost
open Http (Verb)
open Route (PathPattern Table)

namespace MethodSet

/- A text lists known methods unless one of its pieces is the name of none. -/
theorem parseUnknown {text : String} : (∃ e, parse text = .error e) ↔
    ∃ piece ∈ Text.fields '|' text.toList, ∀ v : Verb, v.name ≠ canonicalName piece := by
  rw [parseNames, namesUnknown]
  simp only [namesIn, IsKnown, List.mem_map, exists_exists_and_eq_and, not_exists]

end MethodSet

namespace Controller
variable {H : Type}

section
variable {key : String} {e other : SetupError}

theorem slashFilled (slash : (keyPath key).toList.head? = some '/') : keyPath key ≠ "" := by
  intro blank
  rw [blank] at slash
  cases slash

theorem fatalUnique (one : Fatal key e) (second : Fatal key other) : e = other := by
  cases one with
  | path blank =>
    cases second with
    | path _ => rfl
    | methods filled _ => exact absurd blank filled
    | pattern _ slash _ => exact absurd blank (slashFilled slash)
  | methods filled unsupported =>
    cases second with
    | path blank => exact absurd blank filled
    | methods _ same => rw [Except.error.inj (unsupported.symm.trans same)]
    | pattern supported _ _ => cases unsupported.symm.trans supported
  | pattern supported slash fault =>
    cases second with
    | path blank => exact absurd blank (slashFilled slash)
    | methods _ unsupported => cases unsupported.symm.trans supported
    | pattern _ _ same => rw [Except.error.inj (fault.symm.trans same)]

theorem skippedSpared (skipped : Skipped key) : ¬ Fatal key e := by
  intro fatal
  cases fatal with
  | path blank => exact skipped.filled blank
  | methods _ unsupported =>
    obtain ⟨s, supported⟩ := skipped.methods
    cases unsupported.symm.trans supported
  | pattern _ slash _ => exact skipped.slashless slash

theorem declaredSlash {handler : H} {route : Route H} (declared : Declared key handler route) :
    (keyPath key).toList.head? = some '/' := by
  rw [← declared.raw]
  exact declared.wellFormed.slash

theorem declaredSpared {handler : H} {route : Route H} (declared : Declared key handler route) :
    ¬ Fatal key e := by
  intro fatal
  cases fatal with
  | path blank => exact slashFilled (declaredSlash declared) blank
  | methods _ unsupported => cases unsupported.symm.trans declared.methods
  | pattern _ _ fault =>
    rw [← declared.raw] at fault
    cases fault.symm.trans declared.wellFormed.compiled

end

def rooted (action : String × H) : Bool := (keyPath action.1).toList.head? == some '/'

/- The first of the actions that are fatal, with its error. -/
def FirstFatal (actions : List (String × H)) (e : SetupError) : Prop :=
  ∃ before action after, actions = before ++ action :: after ∧
    (∀ a ∈ before, ∀ other, ¬ Fatal a.1 other) ∧ Fatal action.1 e

theorem firstFatalSome {actions : List (String × H)} {e : SetupError}
    (first : FirstFatal actions e) : ∃ a ∈ actions, Fatal a.1 e := by
  obtain ⟨before, action, after, rfl, _, fatal⟩ := first
  exact ⟨action, List.mem_append_right _ List.mem_cons_self, fatal⟩

theorem declaresSpared {actions : List (String × H)} {table : Table H}
    (declares : Declares actions table) : ∀ a ∈ actions, ∀ e, ¬ Fatal a.1 e := by
  induction declares with
  | nil => exact fun a member => nomatch member
  | skip skipped others ih => exact List.forall_mem_cons.mpr ⟨fun e => skippedSpared skipped, ih⟩
  | route declared others ih =>
    exact List.forall_mem_cons.mpr ⟨fun e => declaredSpared declared, ih⟩

theorem haltsFirst {actions : List (String × H)} {e : SetupError} (halts : Halts actions e) :
    FirstFatal actions e := by
  obtain ⟨before, table, key, handler, rest, cut, declares, fatal⟩ := halts
  exact ⟨before, (key, handler), rest, cut, declaresSpared declares, fatal⟩

theorem firstFatalUnique {actions : List (String × H)} {e other : SetupError}
    (one : FirstFatal actions e) (second : FirstFatal actions other) : e = other := by
  obtain ⟨before, action, after, rfl, spared, fatal⟩ := one
  obtain ⟨before', action', after', cut, spared', fatal'⟩ := second
  induction before generalizing before' with
  | nil =>
    cases before' with
    | nil =>
      obtain ⟨rfl, _⟩ := List.cons.inj cut
      exact fatalUnique fatal fatal'
    | cons a before' =>
      obtain ⟨rfl, _⟩ := List.cons.inj cut
      exact absurd fatal (spared' _ List.mem_cons_self _)
  | cons a before ih =>
    cases before' with
    | nil =>
      obtain ⟨rfl, _⟩ := List.cons.inj cut
      exact absurd fatal' (spared _ List.mem_cons_self _)
    | cons b before' =>
      exact ih (List.forall_mem_cons.mp spared).2 _ (List.cons.inj cut).2
        (List.forall_mem_cons.mp spared').2

end Controller

namespace Router
variable {H : Type}

/- Actions added one after the other, each with the methods and the path of its key. -/
def addActions (r : Router H) : List (String × H) → Except SetupError (Router H)
  | [] => .ok r
  | (key, handler) :: rest =>
    match r.addRoute (.text (Controller.keySpelling key)) (Controller.keyPath key) handler with
    | .error e => .error e
    | .ok (r, _) => r.addActions rest

theorem declaredAdds {r : Router H} {key : String} {handler : H} {route : Route H}
    (bare : r.base = "") (declared : Controller.Declared key handler route) :
    r.addRoute (.text (Controller.keySpelling key)) (Controller.keyPath key) handler =
      .ok ({ r with table := r.table ++ [route] }, .routeRegistered route.methods route.raw) := by
  have set : (MethodSpelling.text (Controller.keySpelling key)).toSet = .ok route.methods :=
    declared.methods
  have compiled := declared.wellFormed.compiled
  rw [declared.raw] at compiled
  simp only [addRoute, bare, String.empty_append, set, declared.wellFormed.methods, compiled,
    declared.raw, ← declared.handler]
  rfl

/- By induction on what the actions declare, for each table that is there already. -/
theorem declaresAdds {r : Router H} {actions : List (String × H)} {table : Table H}
    (bare : r.base = "") (declares : Controller.Declares actions table) :
    r.addActions (actions.filter Controller.rooted) = .ok { r with table := r.table ++ table } := by
  induction declares generalizing r with
  | nil => rw [List.append_nil]; rfl
  | @skip key handler rest table skipped others ih =>
    have left : Controller.rooted (key, handler) = false := by
      simpa [Controller.rooted] using skipped.slashless
    rw [List.filter_cons_of_neg (Bool.eq_false_iff.mp left)]
    exact ih bare
  | @route key handler rest table route declared others ih =>
    have taken : Controller.rooted (key, handler) = true := by
      simpa [Controller.rooted] using Controller.declaredSlash declared
    rw [List.filter_cons_of_pos taken, addActions, declaredAdds bare declared]
    simp only
    rw [@ih { r with table := r.table ++ [route] } bare, List.append_assoc, List.singleton_append]

theorem addControllersFails {r : Router H} {list : List (Controller H)} {e : SetupError} :
    (r.addControllers list).result = .error e ↔
      Controller.FirstFatal (list.flatMap Controller.actions) e := by
  rcases r.addControllersOutcome list with ⟨other, failed, halts⟩ | ⟨table, declares, done⟩
  · have first := Controller.haltsFirst halts
    rw [failed, Except.error.injEq]
    exact ⟨fun same => same ▸ first, Controller.firstFatalUnique first⟩
  · rw [done]
    refine ⟨(fun failed => nomatch failed), fun first => ?_⟩
    obtain ⟨action, member, fatal⟩ := Controller.firstFatalSome first
    exact absurd fatal (Controller.declaresSpared declares action member e)

theorem addControllersDone {r after : Router H} {list : List (Controller H)}
    (registered : (r.addControllers list).result = .ok after) :
    ∃ table, Controller.Declares (list.flatMap Controller.actions) table ∧
      after = { r with table := r.table ++ table } := by
  rcases r.addControllersOutcome list with ⟨e, failed, _⟩ | ⟨table, declares, done⟩
  · cases failed.symm.trans registered
  · exact ⟨table, declares, Except.ok.inj (registered.symm.trans done)⟩

theorem addControllersFatal {r : Router H} {list : List (Controller H)} :
    (∃ e, (r.addControllers list).result = .error e) ↔
      ∃ a ∈ list.flatMap Controller.actions, ∃ e, Controller.Fatal a.1 e := by
  constructor
  · intro failed
    obtain ⟨e, failed⟩ := failed
    obtain ⟨a, member, fatal⟩ := Controller.firstFatalSome (addControllersFails.mp failed)
    exact ⟨a, member, e, fatal⟩
  · intro given
    obtain ⟨a, member, e, fatal⟩ := given
    cases outcome : (r.addControllers list).result with
    | error other => exact ⟨other, rfl⟩
    | ok after =>
      obtain ⟨table, declares, _⟩ := addControllersDone outcome
      exact absurd fatal (Controller.declaresSpared declares a member e)

end Router

theorem Registry.controllersResult {H : Type} {g : Registry H} {name : String} {r : Router H}
    (known : g.get? name = some r) (list : List (Controller H)) :
    (∀ e, (r.addControllers list).result = .error e →
        (g.step (.controllers name list)).result = .error (.setup e)) ∧
      ∀ after, (r.addControllers list).result = .ok after →
        (g.step (.controllers name list)).result = .ok (g.put name after) := by
  constructor
  · intro e failed
    simp only [step, known, failed]
  · intro after done
    simp only [step, known, done]

theorem controllersAgree {H : Type} (r : Router H) (list : List (Controller H)) :
    let actions := list.flatMap Controller.actions
    let registered := (r.addControllers list).result
    (∀ key spelling path, Controller.KeyReads key spelling path ↔
        Controller.keySpelling key = spelling ∧ Controller.keyPath key = path) ∧
      (∀ key, (∃ e, Controller.keyMethods key = .error e) ↔
        ∃ piece ∈ Text.fields '|' (Controller.keySpelling key).toList,
          ∀ v : Verb, v.name ≠ MethodSet.canonicalName piece) ∧
      ((∃ e, registered = .error e) ↔ ∃ a ∈ actions, ∃ e, Controller.Fatal a.1 e) ∧
      (∀ e, registered = .error e ↔ Controller.FirstFatal actions e) ∧
      (∀ after, registered = .ok after → ∃ table, after = { r with table := r.table ++ table } ∧
        ∀ bare : Router H, bare.base = "" → bare.addActions (actions.filter Controller.rooted) =
          .ok { bare with table := bare.table ++ table }) ∧
      ∀ (g : Registry H) name, g.get? name = some r →
        let step := SetupStep.controllers name list
        (∀ e, registered = .error e → (g.step step).result = .error (.setup e) ∧ g.after step = g) ∧
        ∀ after, registered = .ok after →
          (g.step step).result = .ok (g.put name after) ∧ g.after step = g.put name after := by
  intro actions registered
  refine ⟨fun _ _ _ => Controller.keyReadsExactly, fun _ => MethodSet.parseUnknown,
    Router.addControllersFatal, fun _ => Router.addControllersFails, ?_, ?_⟩
  · intro after done
    obtain ⟨table, declares, same⟩ := Router.addControllersDone done
    exact ⟨table, same, fun bare none => Router.declaresAdds none declares⟩
  · intro g name known step
    obtain ⟨fails, succeeds⟩ := Registry.controllersResult known list
    refine ⟨fun e failed => ⟨fails e failed, Registry.afterFault (fails e failed)⟩, ?_⟩
    exact fun after done => ⟨succeeds after done, Registry.afterEffect (succeeds after done)⟩

end Signpost
