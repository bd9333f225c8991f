import Mathlib.Data.List.Forall2
import Mathlib.Data.List.Induction
import Signpost.Proofs.Router.Tables
import Signpost.Router.Registry

/-! Routers under setup, over whole runs of steps. Each step either fails for a reason that can
be read off the state, or has one effect on the tables; from the effects it follows which
step every route of every reachable state comes from, and that it is well formed. -/
namespace Signpost
open Route (Table)
variable {H : Type}

theorem Origin.bare {origin : Origin} {r : Router H} (made : origin.router = .ok r) :
    r.table = [] := by
  cases origin with
  | plain =>
    cases made
    rfl
  | base text =>
    cases made
    rfl
  | setting s =>
    simp only [Origin.router] at made
    split at made
    · cases made
      rfl
    · cases made

namespace SetupStep

/- The routers a step works on. -/
def uses : SetupStep H → List String
  | create _ _ => []
  | setBase name _ | add name _ _ _ | controllers name _ => [name]
  | append name source => [name, source]
  | merge _ sources => sources

/- The routers that are no longer there behind a step, or another one has their name. -/
def ends : SetupStep H → List String
  | create name _ => [name]
  | setBase _ _ | add _ _ _ _ | controllers _ _ => []
  | append _ source => [source]
  | merge name sources => name :: sources

end SetupStep

namespace Registry

theorem getErase (g : Registry H) (name n : String) :
    (g.erase name).get? n = if n = name then none else g.get? n := by
  rw [get?, erase, List.find?_filter]
  by_cases same : n = name
  · subst same
    simp
  · rw [if_neg same, get?]
    congr 2
    funext entry
    by_cases named : entry.1 = n
    · simp [named, same]
    · simp [named]

theorem getPut (g : Registry H) (name n : String) (r : Router H) :
    (g.put name r).get? n = if n = name then some r else g.get? n := by
  have erased := getErase g name n
  rw [get?] at erased
  rw [get?, put, List.find?_append, Option.map_or, erased]
  by_cases same : n = name
  · simp [same]
  · simp [same, Ne.symm same]

theorem getEraseAll (g : Registry H) (names : List String) (n : String) :
    (names.foldl erase g).get? n = if n ∈ names then none else g.get? n := by
  induction names generalizing g with
  | nil => simp
  | cons name names ih =>
    rw [List.foldl_cons, ih, getErase]
    by_cases inside : n ∈ names <;> simp [inside]

def Known (g : Registry H) (name : String) (r : Router H) : Prop := g.get? name = some r

theorem findOutcome (g : Registry H) (name : String) :
    (g.find name = .error .noRouter ∧ g.get? name = none) ∨
      ∃ r, g.find name = .ok r ∧ g.Known name r := by
  unfold find Known
  cases g.get? name with
  | none => exact .inl ⟨rfl, rfl⟩
  | some r => exact .inr ⟨r, rfl, rfl⟩

theorem collectKnown {g : Registry H} {seen names : List String} {routers : List (Router H)}
    (collected : g.collect seen names = .ok routers) :
    List.Forall₂ g.Known names routers ∧ names.Nodup ∧ ∀ n ∈ names, n ∉ seen := by
  induction names generalizing seen routers with
  | nil =>
    cases collected
    exact ⟨.nil, List.nodup_nil, fun n member => nomatch member⟩
  | cons name names ih =>
    rcases findOutcome g name with ⟨failed, _⟩ | ⟨r, found, known⟩
    · simp only [collect, failed] at collected
      cases collected
    simp only [collect, found] at collected
    change (if seen.contains name then _ else _) = _ at collected
    split at collected
    · cases collected
    next new =>
      cases rest : g.collect (name :: seen) names with
      | error fault =>
        rw [rest] at collected
        cases collected
      | ok others =>
      rw [rest] at collected
      cases collected
      obtain ⟨each, distinct, apart⟩ := ih rest
      have unseen : name ∉ seen := by simpa using new
      refine ⟨.cons known each, List.nodup_cons.mpr ⟨?_, distinct⟩, ?_⟩
      · exact fun member => apart name member List.mem_cons_self
      · intro n member
        rcases List.mem_cons.mp member with rfl | member
        · exact unseen
        · exact fun old => apart n member (List.mem_cons_of_mem _ old)

theorem collectFault {g : Registry H} {seen names : List String} {e : RegistryError}
    (failed : g.collect seen names = .error e) :
    (e = .noRouter ∧ ∃ n ∈ names, g.get? n = none) ∨
      (e = .mergeTwice ∧ ¬ (names.Nodup ∧ ∀ n ∈ names, n ∉ seen)) := by
  induction names generalizing seen with
  | nil => cases failed
  | cons name names ih =>
    rcases findOutcome g name with ⟨missing, unknown⟩ | ⟨r, found, known⟩
    · simp only [collect, missing] at failed
      cases failed
      exact .inl ⟨rfl, name, List.mem_cons_self, unknown⟩
    simp only [collect, found] at failed
    change (if seen.contains name then _ else _) = _ at failed
    split at failed
    next old =>
      cases failed
      refine .inr ⟨rfl, fun fine => fine.2 name List.mem_cons_self ?_⟩
      simpa using old
    next new =>
      cases rest : g.collect (name :: seen) names with
      | ok others =>
        rw [rest] at failed
        cases failed
      | error fault =>
        rw [rest] at failed
        cases failed
        rcases ih rest with ⟨same, n, member, unknown⟩ | ⟨same, twice⟩
        · exact .inl ⟨same, n, List.mem_cons_of_mem _ member, unknown⟩
        · refine .inr ⟨same, fun fine => twice ⟨(List.nodup_cons.mp fine.1).2, ?_⟩⟩
          intro n member old
          rcases List.mem_cons.mp old with rfl | old
          · exact (List.nodup_cons.mp fine.1).1 member
          · exact fine.2 n (List.mem_cons_of_mem _ member) old

/- One router is another one, and all others are as they were. -/
def Sets (g after : Registry H) (name : String) (r : Router H) : Prop :=
  ∀ n, after.get? n = if n = name then some r else g.get? n

/- What a step that succeeds does. -/
inductive Effect (g after : Registry H) : SetupStep H → Prop
  | create {name origin r} (made : origin.router = .ok r) (bare : r.table = [])
      (sets : g.Sets after name r) : Effect g after (.create name origin)
  | setBase {name base r} (known : g.Known name r) (sets : g.Sets after name { r with base }) :
      Effect g after (.setBase name base)
  | add {name path spelling handler r route} (known : g.Known name r)
      (added : r.Added spelling path handler route)
      (sets : g.Sets after name { r with table := r.table ++ [route] }) :
      Effect g after (.add name path (.ok spelling) handler)
  | controllers {name list r table} (known : g.Known name r)
      (declares : Controller.Declares (list.flatMap Controller.actions) table)
      (sets : g.Sets after name { r with table := r.table ++ table }) :
      Effect g after (.controllers name list)
  | append {name source r other} (known : g.Known name r) (given : g.Known source other)
      (apart : source ≠ name)
      (sets : (g.erase source).Sets after name { r with table := r.table ++ other.table }) :
      Effect g after (.append name source)
  | merge {name sources routers r} (known : List.Forall₂ g.Known sources routers)
      (distinct : sources.Nodup) (table : r.table = (routers.map Router.table).flatten)
      (single : ∀ one, routers = [one] → r = one)
      (several : routers.length ≠ 1 → r.base = "" ∧ r.methods = none)
      (sets : (sources.foldl erase g).Sets after name r) : Effect g after (.merge name sources)

/- Why a step fails. -/
inductive Fault (g : Registry H) : SetupStep H → RegistryError → Prop
  | origin {name origin e} (fault : origin.router (H := H) = .error e) :
      Fault g (.create name origin) e
  | unknown {s name} (used : name ∈ s.uses) (unknown : g.get? name = none) : Fault g s .noRouter
  | method {name path fault handler r} (known : g.Known name r) :
      Fault g (.add name path (.error fault) handler) (.method fault)
  | add {name path spelling handler r e} (known : g.Known name r)
      (refused : r.Refused spelling path e) :
      Fault g (.add name path (.ok spelling) handler) (.setup e)
  | controllers {name list r e} (known : g.Known name r)
      (halts : Controller.Halts (list.flatMap Controller.actions) e) :
      Fault g (.controllers name list) (.setup e)
  | itself {name r} (known : g.Known name r) : Fault g (.append name name) .appendToItself
  | twice {name sources} (twice : ¬ sources.Nodup) : Fault g (.merge name sources) .mergeTwice

theorem setsPut (g : Registry H) (name : String) (r : Router H) : g.Sets (g.put name r) name r :=
  fun n => getPut g name n r

/- A step fails for a reason, or has its effect. -/
def Decided (g : Registry H) (s : SetupStep H) : Prop :=
  (∃ e, (g.step s).result = .error e ∧ g.Fault s e) ∨
    ∃ after, (g.step s).result = .ok after ∧ g.Effect after s

section
variable (g : Registry H) (name : String)

theorem createDecided (origin : Origin) : g.Decided (.create name origin) := by
  cases made : origin.router with
  | error e => exact .inl ⟨e, by simp only [step, made]; rfl, .origin made⟩
  | ok r =>
    exact .inr ⟨g.put name r, by simp only [step, made]; rfl,
      .create made (Origin.bare made) (setsPut g name r)⟩

theorem setBaseDecided (base : String) : g.Decided (.setBase name base) := by
  rcases findOutcome g name with ⟨missing, unknown⟩ | ⟨r, found, known⟩
  · exact .inl ⟨.noRouter, by simp only [step, missing]; rfl,
      .unknown List.mem_cons_self unknown⟩
  · exact .inr ⟨g.put name (r.setBase base), by simp only [step, found]; rfl,
      .setBase known (setsPut g name _)⟩

theorem addDecided (path : String) (methods : Except Http.Fault MethodSpelling) (handler : H) :
    g.Decided (.add name path methods handler) := by
  rcases findOutcome g name with ⟨missing, unknown⟩ | ⟨r, found, known⟩
  · exact .inl ⟨.noRouter, by simp only [step, addStep, missing]; rfl,
      .unknown List.mem_cons_self unknown⟩
  cases methods with
  | error fault =>
    exact .inl ⟨.method fault, by simp only [step, addStep, found]; rfl, .method known⟩
  | ok spelling =>
    rcases r.addRouteOutcome spelling path handler with ⟨e, failed, refused⟩ | ⟨route, added, done⟩
    · refine .inl ⟨.setup e, ?_, .add known refused⟩
      simp only [step, addStep, found, bind, Except.bind, failed]
    · refine .inr ⟨g.put name { r with table := r.table ++ [route] }, ?_,
        .add known added (setsPut g name _)⟩
      simp only [step, addStep, found, bind, Except.bind, done]

theorem controllersDecided (list : List (Controller H)) :
    g.Decided (.controllers name list) := by
  cases found : g.get? name with
  | none => exact .inl ⟨.noRouter, by simp only [step, found], .unknown List.mem_cons_self found⟩
  | some r =>
    rcases r.addControllersOutcome list with ⟨e, failed, halts⟩ | ⟨table, declares, done⟩
    · exact .inl ⟨.setup e, by simp only [step, found, failed], .controllers found halts⟩
    · exact .inr ⟨g.put name { r with table := r.table ++ table },
        by simp only [step, found, done], .controllers found declares (setsPut g name _)⟩

theorem appendDecided (source : String) : g.Decided (.append name source) := by
  rcases findOutcome g name with ⟨missing, unknown⟩ | ⟨r, found, known⟩
  · exact .inl ⟨.noRouter, by simp only [step, appendStep, missing]; rfl,
      .unknown List.mem_cons_self unknown⟩
  rcases findOutcome g source with ⟨missing, unknown⟩ | ⟨other, given, knownToo⟩
  · exact .inl ⟨.noRouter, by simp only [step, appendStep, found, missing]; rfl,
      .unknown (List.mem_cons_of_mem _ List.mem_cons_self) unknown⟩
  by_cases same : source = name
  · subst same
    exact .inl ⟨.appendToItself,
      by simp only [step, appendStep, found, bind, Except.bind, if_true], .itself known⟩
  · exact .inr ⟨(g.erase source).put name (r.append other),
      by simp only [step, appendStep, found, given, bind, Except.bind, if_neg same],
      .append known knownToo same (setsPut _ name _)⟩

theorem mergeDecided (sources : List String) : g.Decided (.merge name sources) := by
  cases collected : g.collect [] sources with
  | error e =>
    have failed : (g.step (.merge name sources)).result = .error e := by
      simp only [step, mergeStep, collected]
      rfl
    rcases collectFault collected with ⟨rfl, n, member, unknown⟩ | ⟨rfl, twice⟩
    · exact .inl ⟨_, failed, .unknown member unknown⟩
    · exact .inl ⟨_, failed, .twice fun distinct =>
        twice ⟨distinct, fun n member => List.not_mem_nil⟩⟩
  | ok routers =>
    obtain ⟨known, distinct, _⟩ := collectKnown collected
    refine .inr ⟨(sources.foldl erase g).put name (.merge routers), ?_,
      .merge known distinct (Router.mergeTable routers) ?_ ?_ (setsPut _ name _)⟩
    · simp only [step, mergeStep, collected]
      rfl
    · rintro one rfl
      rfl
    · intro several
      rw [Router.mergeSeveral several]
      exact ⟨rfl, rfl⟩

end

theorem stepDecided (g : Registry H) (s : SetupStep H) : g.Decided s := by
  cases s with
  | create name origin => exact createDecided g name origin
  | setBase name base => exact setBaseDecided g name base
  | add name path methods handler => exact addDecided g name path methods handler
  | controllers name list => exact controllersDecided g name list
  | append name source => exact appendDecided g name source
  | merge name sources => exact mergeDecided g name sources

/- The step a route comes from, in the state it was made in. -/
inductive Registers (g : Registry H) : SetupStep H → Route H → Prop
  | add {name path spelling handler r route} (known : g.Known name r)
      (added : r.Added spelling path handler route) :
      Registers g (.add name path (.ok spelling) handler) route
  | action {name list r key handler route} (known : g.Known name r)
      (member : (key, handler) ∈ list.flatMap Controller.actions)
      (declared : Controller.Declared key handler route) :
      Registers g (.controllers name list) route

def Holds (g : Registry H) (route : Route H) : Prop :=
  ∃ name r, g.Known name r ∧ route ∈ r.table

theorem setsHolds {g after : Registry H} {name : String} {r : Router H}
    (sets : g.Sets after name r) {route : Route H} (holds : after.Holds route) :
    route ∈ r.table ∨ g.Holds route := by
  obtain ⟨n, other, known, inside⟩ := holds
  rw [Known, sets] at known
  split at known
  · cases known
    exact .inl inside
  · exact .inr ⟨n, other, known, inside⟩

theorem eraseHolds {g : Registry H} {name : String} {route : Route H}
    (holds : (g.erase name).Holds route) : g.Holds route := by
  obtain ⟨n, r, known, inside⟩ := holds
  rw [Known, getErase] at known
  split at known
  · cases known
  · exact ⟨n, r, known, inside⟩

theorem eraseAllHolds {g : Registry H} {names : List String} {route : Route H}
    (holds : (names.foldl erase g).Holds route) : g.Holds route := by
  induction names generalizing g with
  | nil => exact holds
  | cons name names ih => exact eraseHolds (ih holds)

theorem knownFrom {g : Registry H} {names : List String} {routers : List (Router H)}
    (known : List.Forall₂ g.Known names routers) : ∀ r ∈ routers, ∃ name, g.Known name r := by
  induction known with
  | nil => exact fun r member => nomatch member
  | cons first rest ih =>
    intro r member
    rcases List.mem_cons.mp member with rfl | member
    · exact ⟨_, first⟩
    · exact ih r member

/- No step brings in a route but by registering it. -/
theorem effectHolds {g after : Registry H} {s : SetupStep H} (effect : g.Effect after s)
    {route : Route H} (holds : after.Holds route) : g.Holds route ∨ g.Registers s route := by
  cases effect with
  | create made bare sets =>
    rcases setsHolds sets holds with inside | old
    · rw [bare] at inside
      cases inside
    · exact .inl old
  | setBase known sets =>
    rcases setsHolds sets holds with inside | old
    · exact .inl ⟨_, _, known, inside⟩
    · exact .inl old
  | add known added sets =>
    rcases setsHolds sets holds with inside | old
    · rcases List.mem_append.mp inside with old | new
      · exact .inl ⟨_, _, known, old⟩
      · cases List.mem_singleton.mp new
        exact .inr (.add known added)
    · exact .inl old
  | controllers known declares sets =>
    rcases setsHolds sets holds with inside | old
    · rcases List.mem_append.mp inside with old | new
      · exact .inl ⟨_, _, known, old⟩
      · obtain ⟨key, handler, member, declared⟩ := Controller.declaresMember declares route new
        exact .inr (.action known member declared)
    · exact .inl old
  | append known given apart sets =>
    rcases setsHolds sets holds with inside | old
    · rcases List.mem_append.mp inside with own | others
      · exact .inl ⟨_, _, known, own⟩
      · exact .inl ⟨_, _, given, others⟩
    · exact .inl (eraseHolds old)
  | merge known distinct table single several sets =>
    rcases setsHolds sets holds with inside | old
    · rw [table] at inside
      obtain ⟨_, listed, inside⟩ := List.mem_flatten.mp inside
      obtain ⟨r, given, rfl⟩ := List.mem_map.mp listed
      obtain ⟨name, known⟩ := knownFrom known r given
      exact .inl ⟨name, r, known, inside⟩
    · exact .inl (eraseAllHolds old)

theorem registersWellFormed {g : Registry H} {s : SetupStep H} {route : Route H}
    (registers : g.Registers s route) : route.WellFormed := by
  cases registers with
  | add known added => exact added.wellFormed
  | action known member declared => exact declared.wellFormed

theorem afterEffect {g after : Registry H} {s : SetupStep H} (done : (g.step s).result = .ok after) :
    g.after s = after := by
  rw [Registry.after, done]

theorem afterFault {g : Registry H} {s : SetupStep H} {e : RegistryError}
    (failed : (g.step s).result = .error e) : g.after s = g := by
  rw [Registry.after, failed]

theorem runBehind (g : Registry H) (steps : List (SetupStep H)) (s : SetupStep H) :
    g.run (steps ++ [s]) = (g.run steps).after s := by
  rw [run, List.foldl_append]
  rfl

/- By induction on the run, the last step first: a route is an old one, or of this step. -/
theorem runHolds (steps : List (SetupStep H)) {route : Route H}
    (holds : (run {} steps).Holds route) :
    ∃ before s after, steps = before ++ s :: after ∧ (run {} before).Registers s route := by
  induction steps using List.reverseRecOn with
  | nil =>
    obtain ⟨name, r, known, _⟩ := holds
    cases known
  | append_singleton steps s ih =>
    have old : (run {} steps).Holds route → ∃ before t after,
        steps ++ [s] = before ++ t :: after ∧ (run {} before).Registers t route := by
      intro held
      obtain ⟨before, t, after, rfl, registers⟩ := ih held
      exact ⟨before, t, after ++ [s], by simp, registers⟩
    rw [runBehind] at holds
    rcases stepDecided (run {} steps) s with ⟨e, failed, _⟩ | ⟨after, done, effect⟩
    · rw [afterFault failed] at holds
      exact old holds
    · rw [afterEffect done] at holds
      rcases effectHolds effect holds with held | registers
      · exact old held
      · exact ⟨steps, s, [], rfl, registers⟩

theorem setsKeeps {g after : Registry H} {name : String} {r other : Router H} {n : String}
    (sets : g.Sets after name r) (known : g.Known n other)
    (grows : n = name → other.table <+: r.table) :
    ∃ later, after.Known n later ∧ other.table <+: later.table := by
  by_cases same : n = name
  · exact ⟨r, by rw [Known, sets, if_pos same], grows same⟩
  · exact ⟨other, by rw [Known, sets, if_neg same, known], List.prefix_refl _⟩

theorem ownKeeps {g after : Registry H} {name : String} {r grown other : Router H} {n : String}
    (own : g.Known name r) (grows : r.table <+: grown.table) (sets : g.Sets after name grown)
    (known : g.Known n other) : ∃ later, after.Known n later ∧ other.table <+: later.table := by
  refine setsKeeps sets known ?_
  rintro rfl
  cases Option.some.inj (known.symm.trans own)
  exact grows

/- A router that a step does not end keeps its routes in their places. -/
theorem effectKeeps {g after : Registry H} {s : SetupStep H} (effect : g.Effect after s)
    {n : String} {r : Router H} (known : g.Known n r) (stays : n ∉ s.ends) :
    ∃ later, after.Known n later ∧ r.table <+: later.table := by
  cases effect with
  | create made bare sets =>
    exact setsKeeps sets known fun same => absurd (same ▸ List.mem_cons_self) stays
  | @setBase name base r' own sets =>
    have same : r'.table <+: (r'.setBase base).table := List.prefix_refl _
    exact ownKeeps own same sets known
  | add own added sets => exact ownKeeps own (List.prefix_append _ _) sets known
  | controllers own declares sets => exact ownKeeps own (List.prefix_append _ _) sets known
  | @append name source _ _ own given apart sets =>
    have spared : ∀ {m q}, m ≠ source → g.Known m q → (g.erase source).Known m q := by
      intro m q other known
      rw [Known, getErase, if_neg other]
      exact known
    have stays : n ≠ source := by simpa [SetupStep.ends] using stays
    exact ownKeeps (spared (Ne.symm apart) own) (List.prefix_append _ _) sets (spared stays known)
  | @merge name sources _ _ each distinct table single several sets =>
    simp only [SetupStep.ends, List.mem_cons, not_or] at stays
    have still : (sources.foldl erase g).Known n r := by
      rw [Known, getEraseAll, if_neg stays.2]
      exact known
    exact setsKeeps sets still fun same => absurd same stays.1

theorem runKeeps (g : Registry H) (steps : List (SetupStep H)) {n : String} {r : Router H}
    (known : g.Known n r) (stays : ∀ s ∈ steps, n ∉ s.ends) :
    ∃ later, (g.run steps).Known n later ∧ r.table <+: later.table := by
  induction steps generalizing g r with
  | nil => exact ⟨r, known, List.prefix_refl _⟩
  | cons s rest ih =>
    have step : ∃ next, (g.after s).Known n next ∧ r.table <+: next.table := by
      rcases stepDecided g s with ⟨e, failed, _⟩ | ⟨after, done, effect⟩
      · exact ⟨r, by rw [afterFault failed]; exact known, List.prefix_refl _⟩
      · rw [afterEffect done]
        exact effectKeeps effect known (stays s List.mem_cons_self)
    obtain ⟨next, known, first⟩ := step
    obtain ⟨later, known, second⟩ := ih (g.after s) known fun t member =>
      stays t (List.mem_cons_of_mem _ member)
    exact ⟨later, known, first.trans second⟩

/- Over any run from no routers at all. Routes are well formed and come from the step that
registered them, with the prefix of that moment; the next step leaves all as it was or has its
effect; and what stands in a table stays there, in front of what is added. -/
theorem setupSound (steps : List (SetupStep H)) :
    let g := run {} steps
    (∀ name r, g.get? name = some r → ∀ route ∈ r.table, route.WellFormed ∧
        ∃ before s after, steps = before ++ s :: after ∧ (run {} before).Registers s route) ∧
      (∀ s, (∃ e, (g.step s).result = .error e ∧ g.Fault s e ∧ g.after s = g) ∨
        ∃ after, (g.step s).result = .ok after ∧ g.Effect after s ∧ g.after s = after) ∧
      ∀ before after, steps = before ++ after → ∀ name r, (run {} before).get? name = some r →
        (∀ s ∈ after, name ∉ s.ends) →
          ∃ later, g.get? name = some later ∧ r.table <+: later.table := by
  intro g
  refine ⟨?_, ?_, ?_⟩
  · intro name r known route inside
    obtain ⟨before, s, after, split, registers⟩ := runHolds steps ⟨name, r, known, inside⟩
    exact ⟨registersWellFormed registers, before, s, after, split, registers⟩
  · intro s
    rcases stepDecided g s with ⟨e, failed, fault⟩ | ⟨after, done, effect⟩
    · exact .inl ⟨e, failed, fault, afterFault failed⟩
    · exact .inr ⟨after, done, effect, afterEffect done⟩
  · rintro before after rfl name r known stays
    have split : g = (run {} before).run after := List.foldl_append
    rw [split]
    exact runKeeps (run {} before) after known stays

end Registry
end Signpost
