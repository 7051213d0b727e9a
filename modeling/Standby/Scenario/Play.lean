import Standby.Description
import Standby.Manifest.Read
import Standby.Registry.Bulk
import Standby.Scenario.Product
set_option autoImplicit false

/-!
# Playing a script

What each step of a script does, as an activity.

## Main definitions

* `Standby.Scenario.Scene` — an activity that is refused when a step names something that does not
  exist.
* `Standby.Scenario.playStep`, `Standby.Scenario.playAll` — one step, and steps in order.

## Design

A step that a component takes while it is called answers only with the result of its operation,
because what is in progress may not be observed. `nested` says that this is so.
-/

namespace Standby.Scenario

/-- An activity that is refused when a step names something that does not exist. -/
abbrev Scene := ExceptT String Player

/-- What is there, or a refusal that says what is missing. -/
def need {α : Type} (what : String) : Option α → Scene α
  | some a => pure a
  | none => throw s!"unknown {what}"

/-- Carries out an activity as part of a scene. -/
def carry {α : Type} (a : Player α) : Scene α := ExceptT.lift a

/-- The stage as it is. -/
def stage : Scene Stage := carry Activity.read

/-- Changes the stage. -/
def change (f : Stage → Stage) : Scene Unit := carry (Activity.modify f)

/-! ## Looking things up -/

/-- The type that an identifier stands for. -/
def typeNamed (id : String) : Scene TypeHandle := do
  need "type" ((← stage).types.get? id)

/-- The catalog that an identifier stands for. -/
def catalogNamed (id : String) : Scene (Shared Catalog) := do
  need "catalog" ((← stage).catalogs.get? id)

/-- The registry that an identifier stands for. -/
def registryNamed (id : String) : Scene RegistryId := do
  need "registry" ((← stage).registries.get? id)

/-- The instance that an identifier stands for. -/
def instanceNamed (id : String) : Scene Instance := do
  need "instance" ((← stage).instances.get? id)

/-- The proxy that a step is about. -/
def proxyOf : ProxyRef → Scene ProxyId
  | .kept id => do need "proxy" ((← stage).proxies.get? id)
  | .named registry name => do
    let r ← registryNamed registry
    carry (Activity.obtain r name)

/-! ## Showing things -/

/-- A type as the script knows it. -/
def Stage.typeView (s : Stage) (h : TypeHandle) : TypeView := ⟨s.types.idOf? h.same, h.name⟩

/-- The current catalog as the script knows it. -/
def Stage.currentView (s : Stage) (context : Context) : Answer :=
  .current (context.map fun c => ⟨s.catalogs.idOf? c.same, c.value.size⟩)

/-- An instance as the script knows it. -/
def Stage.instanceView (s : Stage) (i : Instance) : InstanceView :=
  ⟨i.typeName, s.instances.idOf? i.same, s.statsOf i.product⟩

/-- What is current, as the script knows it. -/
def showCurrent : Scene Answer := do
  let context ← carry Activity.current
  return (← stage).currentView context

/-- A proxy as the script knows it, which is kept if need be. -/
def showProxy (p : ProxyId) (keep : Option String) : Scene Answer := do
  let sameAs := (← stage).proxies.idOf? (· == p)
  match keep with
  | some id => change fun s => { s with proxies := s.proxies.put id p }
  | none => pure ()
  return .proxy (← carry (Activity.nameOf p)) sameAs

/-- The answer of an operation on a proxy. -/
def showOperated (nested : Bool) (p : ProxyId) (r : Result) : Scene Answer := do
  if nested then return .result r
  else return .operated r (← carry (Registry.statusOf p))

/-- The answer of an operation on a registry. -/
def showSwept (nested : Bool) (r : RegistryId) (result : Result) : Scene Answer := do
  if nested then return .result result
  else return .swept result (← carry (Registry.namesOf r)) (← carry (Registry.snapshots r))

/-- The answer of a build. -/
def showProduct (p : Product) : Scene Answer := do
  let lifecycle ← carry (capability p)
  return .built lifecycle ((← stage).viewOf p).isSome

/-! ## Putting things together -/

/-- Puts a catalog together, and gives the types that were replaced by registering. -/
def planned (plan : CatalogPlan) : Scene (List (Option TypeHandle) × Catalog) := do
  let base ←
    if plan.fromDefinitions then do
      let mark ← carry (takeMarks definitions.length)
      pure (Catalog.ofDefinitions definitions mark)
    else pure Catalog.empty
  let types ← plan.types.mapM typeNamed
  let parents ← plan.parents.mapM catalogNamed
  let added ← plan.register.mapM typeNamed
  let withTypes := types.foldl Catalog.withType base
  let nestedIn := parents.foldl (fun c parent => c.within parent.value) withTypes
  return added.foldl
    (fun (replaced, c) h =>
      let (old, c) := c.register h
      (replaced ++ [old], c))
    ([], nestedIn)

/-- A new registry. -/
def established (plan : RegistryPlan) : Scene RegistryId := do
  let resolver ←
    match plan.resolver with
    | .ambient => pure Resolver.ambient
    | .scripted id => do pure (Resolver.custom (← need "resolver" ((← stage).resolvers.get? id)))
    | .catalog plan => do pure (Resolver.catalog (← planned plan).2)
  let factory ←
    match plan.factory with
    | .direct => pure Factory.direct
    | .scripted outcomes swap => do
      let index := (← stage).playedFactories.length
      change fun s => { s with playedFactories := s.playedFactories ++ [{ outcomes, swap }] }
      pure (Factory.custom index)
  carry (Activity.establish resolver factory)

/-- The description of what a step is about. -/
def described : Subject → Scene Text.Form
  | .registry id => do
    return registryForm (← carry (Registry.namesOf (← registryNamed id)))
  | .proxy ref => do
    let p ← proxyOf ref
    let name ← carry (Activity.nameOf p)
    let state ← carry (Activity.observe p)
    return state.form name
  | .lastError ref => do
    let state ← carry (Activity.observe (← proxyOf ref))
    return ProxyError.formOption state.lastError
  | .status ref => do
    return (← carry (Registry.statusOf (← proxyOf ref))).form
  | .handle id => do return (← instanceNamed id).form
  | .catalog id => do return (← catalogNamed id).value.form
  | .type id => do return (← typeNamed id).form

/-! ## Steps -/

/-- The manifest that a step applies. -/
def ManifestSource.manifest : ManifestSource → Except ManifestError Manifest
  | .text toml => Manifest.read toml
  | .declared m => .ok m

/-- What a step does that holds no other steps to take at once. -/
def act (nested : Bool) : Step → Scene Answer
  | .defineType id name script => do
    let index := (← stage).playedTypes.length
    let mark ← carry (takeMarks 1)
    let handle : TypeHandle := ⟨mark, ⟨name, scriptedConstructor index⟩⟩
    change fun s => { s with
      playedTypes := s.playedTypes ++ [{ id, script }]
      types := s.types.put id handle }
    return .text name
  | .declareType id name product => do
    let definition : Definition := ⟨name, product.constructor⟩
    let mark ← carry (takeMarks 1)
    let handle := definition.handle mark
    change fun s => { s with types := s.types.put id handle }
    match ← carry (Activity.construct handle) with
    | .ok _ => return .declared name none
    | .error fault => return .declared name (some fault.message)
  | .makeCatalog id plan => do
    let (replaced, c) ← planned plan
    let mark ← carry (takeMarks 1)
    change fun s => { s with catalogs := s.catalogs.put id ⟨mark, c⟩ }
    let s ← stage
    return .catalog (replaced.map fun h => h.map s.typeView) c.size c.isEmpty
  | .makeResolver id table onResolve => do
    let index := (← stage).playedResolvers.length
    change fun s => { s with
      playedResolvers := s.playedResolvers ++ [{ id, table, onResolve }]
      resolvers := s.resolvers.put id index }
    return .nothing
  | .setEntry resolver name entry => do
    let index ← need "resolver" ((← stage).resolvers.get? resolver)
    let set : Names TableEntry → Names TableEntry :=
      match entry with
      | some entry => Names.put name entry
      | none => Names.drop name
    change fun s => { s with
      playedResolvers := s.playedResolvers.modify index fun r => { r with table := set r.table } }
    return .nothing
  | .makeRegistry id plan => do
    let r ← established plan
    change fun s => { s with registries := s.registries.put id r }
    return .nothing
  | .lookup catalog name => do
    let c ← catalogNamed catalog
    return .found ((c.value.lookup name).map (← stage).typeView) (c.value.contains name)
  | .resolveType name catalog => do
    let found ←
      match catalog with
      | some id => do pure ((← catalogNamed id).value.resolve name)
      | none => do pure (Context.resolve (← carry Activity.current) name)
    match found with
    | .ok h => return .type ((← stage).typeView h)
    | .error e => return .problem (.operation (.notFound e))
  | .build ref raw => do
    let found ←
      match ref with
      | .kept id => do pure (.ok (← typeNamed id))
      | .named name => do pure (Context.resolve (← carry Activity.current) name)
    match found with
    | .error e => return .problem (.operation (.notFound e))
    | .ok h =>
      if raw then
        match ← carry (Activity.construct h) with
        | .ok p => showProduct p
        | .error fault => return .problem (.raw fault)
      else
        match ← carry (Activity.build h) with
        | .ok p => showProduct p
        | .error e => return .problem (.operation (.construction e))
  | .sameType a b => do return .flag ((← typeNamed a).same (← typeNamed b))
  | .current => showCurrent
  | .enter catalog guard => do
    let g ← carry (Activity.enter (← catalogNamed catalog))
    change fun s => { s with guards := s.guards ++ [(guard, g)] }
    showCurrent
  | .leave guard => do
    let g ← need "guard" ((← stage).guards.get? guard)
    change fun s => { s with guards := s.guards.drop guard }
    carry (Activity.leave g)
    showCurrent
  | .scope _ _ | .thread _ => throw "steps within steps"
  | .install id plan => do
    let r ← established plan
    if ← carry (Activity.install r) then
      change fun s => { s with registries := s.registries.put id r }
      return .result (.ok ())
    else
      return .problem .alreadyInstalled
  | .installed keep => do
    match ← carry Activity.installed with
    | none => return .nothing
    | some r =>
      let sameAs := (← stage).registries.idOf? (· == r)
      let names ← carry (Registry.namesOf r)
      match keep with
      | some id => change fun s => { s with registries := s.registries.put id r }
      | none => pure ()
      return .installed sameAs names
  | .obtain registry name keep => do
    let p ← carry (Activity.obtain (← registryNamed registry) name)
    showProxy p keep
  | .find registry name keep => do
    match ← carry (Registry.findIn (← registryNamed registry) name) with
    | some p => showProxy p keep
    | none => return .nothing
  | .contains registry name => do
    return .flag (← carry (Registry.holds (← registryNamed registry) name))
  | .names registry => do return .texts (← carry (Registry.namesOf (← registryNamed registry)))
  | .size registry => do
    let r ← registryNamed registry
    return .size (← carry (Registry.count r)) (← carry (Registry.vacant r))
  | .snapshots registry =>
    do return .statuses (← carry (Registry.snapshots (← registryNamed registry)))
  | .resolveAll registry => do
    let r ← registryNamed registry
    showSwept nested r (← carry (Registry.resolveAll r))
  | .reset registry => do
    let r ← registryNamed registry
    carry (Activity.reset r)
    showSwept nested r (.ok ())
  | .apply registry source => do
    let r ← registryNamed registry
    match source.manifest with
    | .error e => return .problem (.manifest e)
    | .ok m => showSwept nested r (← carry (Registry.apply r m))
  | .operate ref operation => do
    let p ← proxyOf ref
    showOperated nested p (← carry (Activity.operate p operation))
  | .inspect ref => do
    let p ← proxyOf ref
    let name ← carry (Activity.nameOf p)
    let state ← carry (Activity.observe p)
    let s ← stage
    return .inspected {
      name
      type := state.type.map s.typeView
      startRequested := state.startRequested
      running := state.running
      lastError := state.lastError
      live := state.liveInstance.map s.instanceView }
  | .liveInstance ref keep => do
    let state ← carry (Activity.observe (← proxyOf ref))
    match state.liveInstance with
    | none => return .nothing
    | some i =>
      let shown := (← stage).instanceView i
      match keep with
      | some id => change fun s => { s with instances := s.instances.put id i }
      | none => pure ()
      return .live shown
  | .view id kind => do
    let i ← instanceNamed id
    let s ← stage
    match kind with
    | .stats => return ((s.statsOf i.product).map Answer.stats).getD .nothing
    | .text => return ((s.textOf i.product).map Answer.text).getD .nothing
    | .self => return .nothing
  | .sameInstance a b => do return .flag ((← instanceNamed a).same (← instanceNamed b))
  | .describe subject pretty => do
    let form ← described subject
    return .text (if pretty then form.spread else form.compact)

/-- The answer of a scene, or its refusal. -/
def settled (scene : Scene Answer) : Player Answer := do
  match ← scene.run with
  | .ok answer => pure answer
  | .error message => pure (.refused message)

mutual

/-- What a step does. -/
def playStep (nested : Bool) : Step → Player Answer
  | .scope catalog steps =>
    settled do
      let c ← catalogNamed catalog
      return .steps (← carry (Activity.scope c (playAll nested steps)))
  | .thread steps => do
    let answers ← onThread (playAll nested steps)
    pure (.steps answers)
  | step => settled (act nested step)

/-- What steps do, one after the other, each with its own reports. -/
def playAll (nested : Bool) : List Step → Player (List StepAnswer)
  | [] => pure []
  | step :: rest => do
    let (answer, reports) ← withReports (playStep nested step)
    let answers ← playAll nested rest
    pure (.mk answer reports :: answers)

end

end Standby.Scenario
