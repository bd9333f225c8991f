import Signpost.Proofs.Methods.Names
import Signpost.Router.Controller

/-! What registration puts into the table of a router, and what keeps it from doing so. An
added route is explained by the prefix at that moment and the path, one declared by a
controller by its key alone. -/
namespace Signpost
open Route (PathPattern Table)

namespace MethodSet

theorem filledByVerb {s : MethodSet} {v : Http.Verb} (has : s.has v = true) :
    s.isEmpty = false := by
  rw [Bool.eq_false_iff]
  intro none
  rw [isEmpty, beq_iff_eq] at none
  simp [MethodSet.has, none] at has

/- A text names one method at least, since it has one piece at least. -/
theorem parseFilled {text : String} {s : MethodSet} (parsed : parse text = .ok s) :
    s.isEmpty = false := by
  obtain ⟨piece, member⟩ := List.exists_mem_of_ne_nil _ (Text.fieldsNonempty '|' text.toList)
  obtain ⟨all, exactly⟩ := namesTaken parsed
  have listed : canonicalName piece ∈ namesIn text := List.mem_map_of_mem member
  obtain ⟨v, named⟩ := all _ listed
  exact filledByVerb ((exactly v).mpr (by rwa [named]))

end MethodSet

namespace Route
variable {H : Type}

theorem PathPattern.compileRaw {template : String} {p : PathPattern}
    (compiled : compile template = .ok p) :
    p.raw = template ∧ template.toList.head? = some '/' := by
  obtain ⟨rest, segments, slash, _, _, same⟩ := compileSteps compiled
  exact ⟨by rw [same], by rw [slash]; rfl⟩

/- The pattern is the one that its own raw text compiles to. -/
structure WellFormed (r : Route H) : Prop where
  methods : r.methods.isEmpty = false
  slash : r.raw.toList.head? = some '/'
  compiled : PathPattern.compile r.raw = .ok r.pattern

theorem wellFormedCompiled {template : String} {p : PathPattern} {methods : MethodSet}
    (handler : H) (filled : methods.isEmpty = false)
    (compiled : PathPattern.compile template = .ok p) :
    (⟨p, methods, handler⟩ : Route H).raw = template ∧
      (⟨p, methods, handler⟩ : Route H).WellFormed := by
  obtain ⟨same, slash⟩ := PathPattern.compileRaw compiled
  refine ⟨same, filled, ?_, ?_⟩
  · rw [Route.raw, same]
    exact slash
  · rw [Route.raw, same]
    exact compiled

end Route

namespace Router
variable {H : Type}

structure Added (r : Router H) (spelling : MethodSpelling) (path : String) (handler : H)
    (route : Route H) : Prop where
  methods : spelling.toSet = .ok route.methods
  raw : route.raw = r.base ++ path
  handler : route.handler = handler
  wellFormed : route.WellFormed

/- Each refusal stands behind those before it. -/
inductive Refused (r : Router H) (spelling : MethodSpelling) (path : String) : SetupError → Prop
  | methods {e} (unsupported : spelling.toSet = .error e) :
      Refused r spelling path (.unsupportedMethod e)
  | empty {s} (supported : spelling.toSet = .ok s) (none : s.isEmpty = true) :
      Refused r spelling path (.emptyMethods (r.base ++ path))
  | pattern {s e} (supported : spelling.toSet = .ok s) (some : s.isEmpty = false)
      (fault : PathPattern.compile (r.base ++ path) = .error e) :
      Refused r spelling path (.pattern e)

theorem addRouteOutcome (r : Router H) (spelling : MethodSpelling) (path : String)
    (handler : H) :
    (∃ e, r.addRoute spelling path handler = .error e ∧ r.Refused spelling path e) ∨
      ∃ route, r.Added spelling path handler route ∧
        r.addRoute spelling path handler = .ok ({ r with table := r.table ++ [route] },
          .routeRegistered route.methods route.raw) := by
  unfold addRoute
  cases set : spelling.toSet with
  | error e => exact .inl ⟨_, rfl, .methods set⟩
  | ok methods =>
    simp only
    cases filled : methods.isEmpty with
    | true => exact .inl ⟨_, rfl, .empty set filled⟩
    | false =>
      cases compiled : PathPattern.compile (r.base ++ path) with
      | error e => exact .inl ⟨_, rfl, .pattern set filled compiled⟩
      | ok pattern =>
        obtain ⟨raw, wellFormed⟩ := Route.wellFormedCompiled handler filled compiled
        refine .inr ⟨⟨pattern, methods, handler⟩, ⟨set, raw, rfl, wellFormed⟩, ?_⟩
        rw [raw]
        rfl

theorem appendAll (r : Router H) (others : List (Router H)) :
    others.foldl append r = { r with table := r.table ++ (others.map table).flatten } := by
  induction others generalizing r with
  | nil => simp
  | cons other rest ih =>
    rw [List.foldl_cons, ih, append, List.map_cons, List.flatten_cons, List.append_assoc]

theorem mergeSeveral {routers : List (Router H)} (several : routers.length ≠ 1) :
    merge routers = { table := (routers.map table).flatten } := by
  match routers with
  | [] => rfl
  | [r] => exact absurd rfl several
  | r :: r' :: rest => exact appendAll {} (r :: r' :: rest)

theorem mergeTable (routers : List (Router H)) :
    (merge routers).table = (routers.map table).flatten := by
  by_cases one : routers.length = 1
  · obtain ⟨r, rfl⟩ := List.length_eq_one_iff.mp one
    simp [merge]
  · rw [mergeSeveral one]

end Router

namespace Controller
variable {H : Type}

def keyMethods (key : String) : Except UnsupportedMethod MethodSet :=
  MethodSet.parse ((splitKey key).1.getD "GET")

def keyPath (key : String) : String := (splitKey key).2

def keySpelling (key : String) : String := (splitKey key).1.getD "GET"

/- The methods stand in front of the first blank of a key, and the path behind it, up to the
next blank or the end. A key without a blank is a path for GET. -/
inductive KeyReads : String → String → String → Prop
  | path {key} (free : ' ' ∉ key.toList) : KeyReads key "GET" key
  | both {methods path rest : List Char} (methodsFree : ' ' ∉ methods) (pathFree : ' ' ∉ path)
      (ends : ∀ c ∈ rest.head?, c = ' ') :
      KeyReads (.ofList (methods ++ ' ' :: (path ++ rest))) (.ofList methods) (.ofList path)

theorem keyReads {key spelling path : String} (reads : KeyReads key spelling path) :
    keySpelling key = spelling ∧ keyPath key = path := by
  rw [keySpelling, keyPath, splitKey]
  cases reads with
  | path free =>
    rw [Text.fieldsAlone free]
    exact ⟨rfl, rfl⟩
  | @both methods path rest methodsFree pathFree ends =>
    have behind : ∃ others, Text.fields ' ' (path ++ rest) = path :: others := by
      cases rest with
      | nil => exact ⟨[], by rw [List.append_nil, Text.fieldsAlone pathFree]⟩
      | cons c rest =>
        cases ends c rfl
        exact ⟨_, Text.fieldsFirst pathFree⟩
    obtain ⟨others, behind⟩ := behind
    rw [String.toList_ofList, Text.fieldsFirst methodsFree, behind]
    exact ⟨rfl, rfl⟩

theorem keyReadable (key : String) : ∃ spelling path, KeyReads key spelling path := by
  by_cases blank : ' ' ∈ key.toList
  · obtain ⟨methods, behind, cut, methodsFree⟩ := List.eq_append_cons_of_mem blank
    have readable : ∃ path rest, behind = path ++ rest ∧ ' ' ∉ path ∧ ∀ c ∈ rest.head?, c = ' ' := by
      by_cases again : ' ' ∈ behind
      · obtain ⟨path, rest, rfl, pathFree⟩ := List.eq_append_cons_of_mem again
        exact ⟨path, ' ' :: rest, rfl, pathFree, fun c first => (Option.some.inj first).symm⟩
      · exact ⟨behind, [], (List.append_nil _).symm, again, fun c first => nomatch first⟩
    obtain ⟨path, rest, rfl, pathFree, ends⟩ := readable
    rw [← String.ofList_toList (s := key), cut]
    exact ⟨_, _, .both methodsFree pathFree ends⟩
  · exact ⟨_, _, .path blank⟩

theorem keyReadsExactly {key spelling path : String} :
    KeyReads key spelling path ↔ keySpelling key = spelling ∧ keyPath key = path := by
  refine ⟨keyReads, ?_⟩
  rintro ⟨rfl, rfl⟩
  obtain ⟨spelling, path, reads⟩ := keyReadable key
  obtain ⟨rfl, rfl⟩ := keyReads reads
  exact reads

structure Declared (key : String) (handler : H) (route : Route H) : Prop where
  methods : keyMethods key = .ok route.methods
  raw : route.raw = keyPath key
  handler : route.handler = handler
  wellFormed : route.WellFormed

structure Skipped (key : String) : Prop where
  filled : keyPath key ≠ ""
  methods : ∃ s, keyMethods key = .ok s
  slashless : (keyPath key).toList.head? ≠ some '/'

inductive Fatal (key : String) : SetupError → Prop
  | path (blank : keyPath key = "") : Fatal key (.missingPath key)
  | methods {e} (filled : keyPath key ≠ "") (unsupported : keyMethods key = .error e) :
      Fatal key (.unsupportedMethod e)
  | pattern {s e} (supported : keyMethods key = .ok s)
      (slash : (keyPath key).toList.head? = some '/')
      (fault : PathPattern.compile (keyPath key) = .error e) : Fatal key (.pattern e)

theorem registerActionOutcome (key : String) (handler : H) :
    (∃ e, (registerAction key handler).result = .error e ∧ Fatal key e) ∨
      ((registerAction key handler).result = .ok none ∧ Skipped key) ∨
      ∃ route, (registerAction key handler).result = .ok (some route) ∧
        Declared key handler route := by
  unfold registerAction
  split
  next methods? path split =>
    have keyed : keyMethods key = MethodSet.parse (methods?.getD "GET") ∧ keyPath key = path := by
      rw [keyMethods, keyPath, split]
      exact ⟨rfl, rfl⟩
    obtain ⟨spelled, rfl⟩ := keyed
    simp only
    by_cases blank : keyPath key = ""
    · rw [if_pos (String.isEmpty_iff.mpr blank)]
      exact .inl ⟨_, rfl, .path blank⟩
    rw [if_neg (mt String.isEmpty_iff.mp blank), ← spelled]
    cases methods : keyMethods key with
    | error e => exact .inl ⟨_, rfl, .methods blank methods⟩
    | ok s =>
      simp only
      by_cases slash : (keyPath key).toList.head? = some '/'
      · rw [if_pos slash]
        cases compiled : PathPattern.compile (keyPath key) with
        | error e => exact .inl ⟨_, rfl, .pattern methods slash compiled⟩
        | ok pattern =>
          obtain ⟨raw, wellFormed⟩ :=
            Route.wellFormedCompiled handler (MethodSet.parseFilled methods) compiled
          exact .inr (.inr ⟨_, rfl, methods, raw, rfl, wellFormed⟩)
      · rw [if_neg slash]
        exact .inr (.inl ⟨rfl, blank, ⟨s, methods⟩, slash⟩)

/- The routes of a list of actions, in the order of the actions. -/
inductive Declares : List (String × H) → Table H → Prop
  | nil : Declares [] []
  | skip {key handler rest table} (skipped : Skipped key) (others : Declares rest table) :
      Declares ((key, handler) :: rest) table
  | route {key handler rest table route} (declared : Declared key handler route)
      (others : Declares rest table) : Declares ((key, handler) :: rest) (route :: table)

/- The first fatal action decides. -/
def Halts (actions : List (String × H)) (e : SetupError) : Prop :=
  ∃ before table key handler rest,
    actions = before ++ (key, handler) :: rest ∧ Declares before table ∧ Fatal key e

theorem registerActionsOutcome (actions : List (String × H)) :
    (∃ e, (registerActions actions).result = .error e ∧ Halts actions e) ∨
      ∃ table, (registerActions actions).result = .ok table ∧ Declares actions table := by
  induction actions with
  | nil => exact .inr ⟨[], rfl, .nil⟩
  | cons action rest ih =>
    obtain ⟨key, handler⟩ := action
    unfold registerActions
    rcases registerActionOutcome key handler with
      ⟨e, first, fatal⟩ | ⟨first, skipped⟩ | ⟨route, first, declared⟩
    · simp only [first]
      exact .inl ⟨e, rfl, [], [], key, handler, rest, rfl, .nil, fatal⟩
    · simp only [first]
      rcases ih with ⟨e, result, before, table, k, h, after, rfl, fine, fatal⟩ |
        ⟨table, result, declares⟩
      · rw [result]
        exact .inl ⟨e, rfl, (key, handler) :: before, table, k, h, after, rfl,
          .skip skipped fine, fatal⟩
      · rw [result]
        exact .inr ⟨table, rfl, .skip skipped declares⟩
    · simp only [first]
      rcases ih with ⟨e, result, before, table, k, h, after, rfl, fine, fatal⟩ |
        ⟨table, result, declares⟩
      · rw [result]
        exact .inl ⟨e, rfl, (key, handler) :: before, route :: table, k, h, after, rfl,
          .route declared fine, fatal⟩
      · rw [result]
        exact .inr ⟨route :: table, rfl, .route declared declares⟩

theorem declaresMember {actions : List (String × H)} {table : Table H}
    (declares : Declares actions table) :
    ∀ route ∈ table, ∃ key handler, (key, handler) ∈ actions ∧ Declared key handler route := by
  induction declares with
  | nil => exact fun route member => nomatch member
  | skip skipped others ih =>
    intro route member
    obtain ⟨key, handler, inside, declared⟩ := ih route member
    exact ⟨key, handler, List.mem_cons_of_mem _ inside, declared⟩
  | route declared others ih =>
    intro route member
    rcases List.mem_cons.mp member with rfl | member
    · exact ⟨_, _, List.mem_cons_self, declared⟩
    · obtain ⟨key, handler, inside, declared⟩ := ih route member
      exact ⟨key, handler, List.mem_cons_of_mem _ inside, declared⟩

end Controller

theorem Router.addControllersOutcome {H : Type} (r : Router H) (list : List (Controller H)) :
    (∃ e, (r.addControllers list).result = .error e ∧
        Controller.Halts (list.flatMap Controller.actions) e) ∨
      ∃ table, Controller.Declares (list.flatMap Controller.actions) table ∧
        (r.addControllers list).result = .ok { r with table := r.table ++ table } := by
  unfold addControllers Controller.register
  rcases Controller.registerActionsOutcome (list.flatMap Controller.actions) with
    ⟨e, result, halts⟩ | ⟨table, result, declares⟩
  · exact .inl ⟨e, by simp only [result, Except.map], halts⟩
  · exact .inr ⟨table, declares, by simp only [result, Except.map]⟩

end Signpost
