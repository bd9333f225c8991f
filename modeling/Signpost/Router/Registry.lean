import Signpost.Router.Controller

/-! Routers kept by name, and the steps of their setup as data. A step that fails leaves all
routers as they were. -/
namespace Signpost

inductive RegistryError
  | noRouter
  | appendToItself
  | mergeTwice
  | method (fault : Http.Fault)
  | setting (fault : SettingFault)
  | setup (e : SetupError)
  deriving DecidableEq, Repr

inductive Origin
  | plain
  | base (text : String)
  | setting (s : Setting)

def Origin.router {H : Type} : Origin → Except RegistryError (Router H)
  | plain => .ok {}
  | base text => .ok (.withBase text)
  | setting s =>
    match RouterOptions.ofSetting s with
    | .ok o => .ok (.ofOptions o)
    | .error fault => .error (.setting fault)

/- The methods of an added route may have been found to be no methods at all. -/
inductive SetupStep (H : Type)
  | create (name : String) (origin : Origin)
  | setBase (name base : String)
  | add (name path : String) (methods : Except Http.Fault MethodSpelling) (handler : H)
  | controllers (name : String) (list : List (Controller H))
  | append (name source : String)
  | merge (name : String) (sources : List String)

structure Registry (H : Type) where
  routers : List (String × Router H) := []

namespace Registry
variable {H : Type}

def get? (g : Registry H) (name : String) : Option (Router H) :=
  (g.routers.find? (·.1 == name)).map Prod.snd

def find (g : Registry H) (name : String) : Except RegistryError (Router H) :=
  match g.get? name with
  | some r => .ok r
  | none => .error .noRouter

def erase (g : Registry H) (name : String) : Registry H :=
  ⟨g.routers.filter (·.1 != name)⟩

def put (g : Registry H) (name : String) (r : Router H) : Registry H :=
  ⟨(g.erase name).routers ++ [(name, r)]⟩

def collect (g : Registry H) (seen : List String) :
    List String → Except RegistryError (List (Router H))
  | [] => .ok []
  | name :: names => do
    let r ← g.find name
    if seen.contains name then .error .mergeTwice
    else .ok (r :: (← g.collect (name :: seen) names))

structure StepResult (H : Type) where
  log : List Event := []
  result : Except RegistryError (Registry H)

def addStep (g : Registry H) (name path : String) (methods : Except Http.Fault MethodSpelling)
    (handler : H) : Except RegistryError (Registry H × Event) := do
  let r ← g.find name
  match methods with
  | .error fault => .error (.method fault)
  | .ok spelling =>
    match r.addRoute spelling path handler with
    | .error e => .error (.setup e)
    | .ok (r, event) => .ok (g.put name r, event)

def appendStep (g : Registry H) (name source : String) : Except RegistryError (Registry H) := do
  let r ← g.find name
  let other ← g.find source
  if source = name then .error .appendToItself
  else .ok ((g.erase source).put name (r.append other))

def mergeStep (g : Registry H) (name : String) (sources : List String) :
    Except RegistryError (Registry H) := do
  let routers ← g.collect [] sources
  .ok ((sources.foldl erase g).put name (.merge routers))

def step (g : Registry H) : SetupStep H → StepResult H
  | .create name origin => { result := do .ok (g.put name (← origin.router)) }
  | .setBase name base => { result := do .ok (g.put name ((← g.find name).setBase base)) }
  | .add name path methods handler =>
    match g.addStep name path methods handler with
    | .error e => { result := .error e }
    | .ok (g, event) => { log := [event], result := .ok g }
  | .controllers name list =>
    match g.get? name with
    | none => { result := .error .noRouter }
    | some r =>
      let added := r.addControllers list
      { log := added.log
        result := match added.result with
          | .error e => .error (.setup e)
          | .ok r => .ok (g.put name r) }
  | .append name source => { result := g.appendStep name source }
  | .merge name sources => { result := g.mergeStep name sources }

def after (g : Registry H) (s : SetupStep H) : Registry H :=
  match (g.step s).result with
  | .ok g => g
  | .error _ => g

def run (g : Registry H) (steps : List (SetupStep H)) : Registry H := steps.foldl after g

end Registry
end Signpost
