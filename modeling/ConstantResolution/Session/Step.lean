import ConstantResolution.Session.Command
import ConstantResolution.Benchmark.Workload

/-! # Sessions

A session is a store with names that hold its parts.  It starts with one realm and its top level,
and changes by commands.  A command that fails binds no name.  Commands are performed one after
another, each to its end. -/

namespace ConstantResolution

/-- A store, and what names hold in it.  The namespaces that names hold are known to the world. -/
structure Session where
  store : Store := {}
  realms : Dictionary RealmId := {}
  sites : Dictionary SiteId := {}
  stubs : Dictionary Stub := {}
  tallies : Dictionary TallyId := {}
  /-- the counters as they stood when they were last asked for -/
  seen : List (TallyId × Tally) := []

namespace Session

/-! ### Actions on parts -/

def onStore {α : Type} (x : Action Store α) : Action Session α :=
  Action.within Session.store (fun store s => { s with store }) x

def onWorld {α : Type} (x : Action World α) : Action Session α := onStore (Store.onWorld x)

/-- A part of the world. -/
def ofWorld {α : Type} (f : World → α) : Action Session α := Action.read fun s => f s.store.world

/-! ### What names hold -/

/-- What a name holds, or a failure. -/
def held {α : Type} (part : Session → Dictionary α) (holder : String) : Action Session α := fun s =>
  match (part s).get? holder with
  | some a => ⟨s, [], .ok a⟩
  | none => ⟨s, [], .error (.unbound holder)⟩

def heldNamespace (holder : String) : Action Session NamespaceId := onWorld (World.heldBy holder)

/-- What a name that may be left out holds. -/
def heldIfNamed : Option String → Action Session (Option NamespaceId)
  | none => return none
  | some holder => do return some (← heldNamespace holder)

def valueOf (v : ValueTerm) : Action Session Value := onWorld (World.valueOf v)

def heldSite : String → Action Session SiteId := held Session.sites

def heldRealm : String → Action Session RealmId := held Session.realms

def heldStub : String → Action Session Stub := held Session.stubs

def heldTally : TallyTerm → Action Session TallyId
  | .ofRealm holder => do
    let r ← heldRealm holder
    Action.read fun s => (s.store.realm r).tally
  | .heldTally holder => held Session.tallies holder

/-! ### Stubs -/

/-- An action on the stub that a name holds. -/
def onStub {α : Type} (holder : String) (x : Action Stub α) : Action Session α := do
  let stub ← heldStub holder
  Action.within (fun _ => stub) (fun stub s => { s with stubs := s.stubs.insert holder stub }) x

/-- Sets or removes an entry of a stub, if one is given. -/
def setEntry (holder : String) : Option (String × Option ValueTerm) → Action Session Unit
  | none => pure ()
  | some (name, none) => onStub holder (Action.modify fun s => s.setEntry name none)
  | some (name, some v) => do
    let v ← valueOf v
    onStub holder (Action.modify fun s => s.setEntry name (some v))

/-! ### Binding names -/

/-- Lets a name hold a namespace; what it held before is given up. -/
def bindNamespace (holder : String) (i : NamespaceId) : Action Session Unit :=
  onWorld (Action.modify fun w => w.hold holder i)

/-- Lets a name hold no namespace, and tells whether it held one. -/
def dropNamespace (holder : String) : Action Session Bool := do
  let bound ← ofWorld fun w => (w.held.get? holder).isSome
  onWorld (Action.modify fun w => w.letGo holder)
  return bound

/-- Gives up the site that a name holds, and tells whether it held one. -/
def dropSite (holder : String) : Action Session Bool := do
  match ← Action.read fun s => s.sites.get? holder with
  | none => return false
  | some k =>
    Action.modify fun s => { s with sites := s.sites.erase holder }
    onStore (Store.dropSite k)
    return true

/-- Lets a name hold a site; what it held before is given up. -/
def bindSite (holder : String) (k : SiteId) : Action Session Unit := do
  let _ ← dropSite holder
  Action.modify fun s => { s with sites := s.sites.insert holder k }

/-- Lets a name hold a realm; what it held before is given up. -/
def bindRealm (holder : String) (r : RealmId) : Action Session Unit := do
  let old ← Action.read fun s => s.realms.get? holder
  onStore (old.elim (pure ()) Store.dropRealm)
  Action.modify fun s => { s with realms := s.realms.insert holder r }

/-- Creates a namespace and lets a name hold it. -/
def creating (holder : String) (x : Action Session NamespaceId) : Action Session Answer := do
  let i ← x
  bindNamespace holder i
  return .number i

/-- Makes a realm and lets a name hold it, and another name its top level. -/
def startRealm (holder topHolder : String) (policy : Policy) : Action Session NamespaceId := do
  let r ← onStore (Store.newRealm policy)
  let top ← Action.read fun s => (s.store.realm r).top
  bindRealm holder r
  bindNamespace topHolder top
  return top

/-! ### Evaluations -/

/-- An action on a site in the scope of a context. -/
def atSite {α : Type} (site : String) (context : ContextTerm)
    (x : {σ : Type} → Scope σ → Action (Reading σ) α) : Action Session α := do
  let k ← heldSite site
  let _ ← heldIfNamed context.enteredFrom
  match context.scope with
  | .heldNamespace holder =>
    let i ← heldNamespace holder
    onStore (Store.atSite k (x (World.scope i)))
  | .heldStub holder =>
    let stub ← heldStub holder
    let p ← onStore (Store.placed k)
    Action.within (fun s => ⟨p.site, s.store.tally p.tally, stub⟩)
      (fun r s =>
        { s with
          store := (s.store.setSite k r.site).setTally p.tally r.tally
          stubs := s.stubs.insert holder r.scope })
      (x Stub.scope)

/-- Asks the scope of a context about a name. -/
def survey (context : ContextTerm) (name : String) : Action Session Scope.Survey := do
  let _ ← heldIfNamed context.enteredFrom
  match context.scope with
  | .heldNamespace holder => do
    let i ← heldNamespace holder
    onWorld ((World.scope i).survey name)
  | .heldStub holder => onStub holder (Stub.scope.survey name)

/-! ### Looking at parts -/

def refOf (w : World) (i : NamespaceId) : NamespaceRef := ⟨i, w.qualifiedName i⟩

/-- All that can be asked about a namespace. -/
def namespaceInfo (w : World) (i : NamespaceId) : NamespaceInfo where
  id := i
  name := (w.node i).name
  path := w.qualifiedName i
  kind := (w.node i).kind
  isTopLevel := w.isTopLevel i
  generation := w.generation i
  dependents := w.dependentCount i
  parent := (w.node i).parent.map (refOf w)
  superclass := (w.node i).superclass.map (refOf w)
  names := (w.node i).constants.names

/-- A namespace in a description. -/
def namespaceDescription (w : World) (i : NamespaceId) : String :=
  "Namespace \x7b id: NamespaceId(" ++ toString i ++ "), name: " ++
    Text.quoted (w.qualifiedName i) ++ ", kind: " ++ (w.node i).kind.text ++
    ", generation: " ++ toString (w.generation i).toNat ++ " \x7d"

/-- All that can be asked about counters.  From now on they have been asked for. -/
def inspectTally (t : TallyId) : Action Session TallyInfo := do
  let s ← Action.get
  let tally := s.store.tally t
  let earlier := (s.seen.lookup t).getD {}
  match tally.hitRate with
  | .error f => Action.fault f
  | .ok hitRate =>
    Action.modify fun s => { s with seen := (t, tally) :: s.seen.filter fun e => e.1 != t }
    return { tally, growth := tally.since earlier, hitRate, same := tally == earlier }

/-! ### Commands -/

/-- **Performs a command.** -/
def perform : Command → Action Session Answer
  | .openClass holder name parent superclass realm => creating holder do
    let r ← heldRealm realm
    let parent ← heldNamespace parent
    let superclass ← heldIfNamed superclass
    onStore (Store.openClass r name parent superclass)
  | .openModule holder name parent realm => creating holder do
    let r ← heldRealm realm
    let parent ← heldNamespace parent
    onStore (Store.openModule r name parent)
  | .newClass holder name parent superclass => creating holder do
    let parent ← heldNamespace parent
    let superclass ← heldIfNamed superclass
    onWorld (World.newClass name parent superclass)
  | .newModule holder name parent => creating holder do
    onWorld (World.newModule name (← heldNamespace parent))
  | .newTopLevel holder => creating holder (onWorld World.newTopLevel)
  | .dropNamespace holder => do return .flag (← dropNamespace holder)
  | .define ns name value => do
    let i ← heldNamespace ns
    let v ← valueOf value
    return .value (← onWorld (World.define i name v))
  | .remove ns name => do return .value (← onWorld (World.remove (← heldNamespace ns) name))
  | .includeModule ns mixin => do
    let i ← heldNamespace ns
    let m ← heldNamespace mixin
    onWorld (World.includeModule i m)
    return .done
  | .reopen ns => do return .number (← onWorld (World.reopen (← heldNamespace ns))).toNat
  | .lookup ns name => do
    let i ← heldNamespace ns
    return .value (← ofWorld fun w => w.lookup i name)
  | .localConstant ns name => do
    let i ← heldNamespace ns
    return .value (← ofWorld fun w => w.local? i name)
  | .isDefined ns name => do
    let i ← heldNamespace ns
    return .flag (← ofWorld fun w => (w.lookup i name).isSome)
  | .names ns => do
    let i ← heldNamespace ns
    return .words (← ofWorld fun w => (w.node i).constants.names)
  | .ancestors ns => do
    let i ← heldNamespace ns
    return .refs (← ofWorld fun w => (w.ancestors i).map (refOf w))
  | .dispatch ns name => do
    return .value (some (← onWorld (World.dispatch (← heldNamespace ns) name)))
  | .inspect ns => do
    let i ← heldNamespace ns
    return .namespaceInfo (← ofWorld fun w => namespaceInfo w i)
  | .describe ns => do
    let i ← heldNamespace ns
    return .word (some (← ofWorld fun w => namespaceDescription w i))
  | .setHandler ns label response => do
    let i ← heldNamespace ns
    onWorld (Action.modify fun w => w.setHandler i { label, response })
    return .done
  | .newStub holder stub => do
    Action.modify fun s => { s with stubs := s.stubs.insert holder stub }
    return .done
  | .setStub holder entry generation => do
    setEntry holder entry
    onStub holder (Action.modify fun s => { s with generation := generation.getD s.generation })
    return .done
  | .inspectStub holder => do
    let stub ← heldStub holder
    return .stubInfo stub.generation stub.lookups
  | .survey context name => do return .survey (← survey context name)
  | .newSite holder name position realm => do
    let r ← heldRealm realm
    bindSite holder (← onStore (Store.makeSite r name position))
    return .done
  | .newFreeSite holder name position policy tally => do
    let t ← heldTally tally
    bindSite holder (← onStore (Store.newSite name position policy t))
    return .done
  | .dropSite holder => do return .flag (← dropSite holder)
  | .evaluate site context times => do
    return .value (some (← Action.repeated (times - 1) (atSite site context Reading.evaluate)))
  | .resolve site context => do return .value (← atSite site context Reading.resolve)
  | .siteDefined site context => do return .flag (← atSite site context Reading.isDefined)
  | .definition site context => do return .word (← atSite site context Reading.definition)
  | .invalidate site => do
    onStore (Store.invalidate (← heldSite site))
    return .done
  | .rename site name => do
    onStore (Store.renameSite (← heldSite site) name)
    return .done
  | .inspectSite site => do return .site (← onStore (Store.placed (← heldSite site))).site
  | .describeSite site => do
    return .word (some (← onStore (Store.placed (← heldSite site))).site.description)
  | .newRealm holder policy => do return .number (← startRealm holder (holder ++ ".top") policy)
  | .policy realm => do
    let r ← heldRealm realm
    return .policy (← Action.read fun s => (s.store.realm r).policy)
  | .counts realm => do
    let r ← heldRealm realm
    let s ← Action.get
    return .counts (s.store.namespaceCount r) (s.store.siteCount r)
  | .invalidateAll realm => do
    return .number (← onStore (Store.invalidateAll (← heldRealm realm)))
  | .namespaceById id realm => do
    let r ← heldRealm realm
    let s ← Action.get
    return .ref ((s.store.namespaceOf? r (.ns id)).map (refOf s.store.world))
  | .namespaceOf value realm => do
    let r ← heldRealm realm
    let v ← valueOf value
    let s ← Action.get
    return .ref ((s.store.namespaceOf? r v).map (refOf s.store.world))
  | .newTally holder => do
    let t ← onStore Store.newTally
    Action.modify fun s => { s with tallies := s.tallies.insert holder t }
    return .done
  | .record tally event times => do
    let t ← heldTally tally
    onStore (Action.times times 0 fun _ => Store.record t event)
    return .done
  | .inspectTally tally => do return .tallyInfo (← inspectTally (← heldTally tally))
  | .work realm workload iterations => do
    onStore (workload.perform (← heldRealm realm) iterations)
    return .done

/-! ### Runs -/

/-- The realm that a session starts with. -/
def mainRealm : String := "main"

/-- The holder of its top level. -/
def mainTop : String := "top"

/-- A session at its start. -/
def start (policy : Policy) : Session := (startRealm mainRealm mainTop policy {}).state

/-- **Performs commands one after another**, whatever becomes of each, and gives the session after
each of them with its outcome. -/
def run (s : Session) : List Command → List (Outcome Session Answer)
  | [] => []
  | c :: cs =>
    let o := perform c s
    o :: run o.state cs

/-- The counters of the realm that the session started with. -/
def mainTally (s : Session) : Tally :=
  ((s.realms.get? mainRealm).map fun r => s.store.tally (s.store.realm r).tally).getD {}

/-- The generations of all namespaces that names hold. -/
def generations (s : Session) : List (String × UInt64) :=
  s.store.world.held.entries.map fun (holder, i) => (holder, s.store.world.generation i)

end Session
end ConstantResolution
