import ConstantResolution.Store.Basic

/-! # Realms

Opening classes and modules in a realm: a name that is free is bound to a new namespace, and one
that is bound to a registered namespace of the right kind opens that again.  Either way the
generation of the namespace advances. -/

namespace ConstantResolution.Store

/-! ### Making and dropping a realm -/

/-- Registers a namespace, which holds it. -/
def register (r : RealmId) (i : NamespaceId) : Action Store Unit := do
  Action.modify fun s => { s with world := s.world.retain i }
  modifyRealm r fun m => { m with registered := m.registered ++ [i] }

/-- **Makes a realm** with a top level of its own, which is registered. -/
def newRealm (policy : Policy) : Action Store RealmId := do
  let r ← Action.read fun s => s.realms.size
  let top ← onWorld World.newTopLevel
  let tally ← newTally
  Action.modify fun s => { s with realms := s.realms.push { policy, top, tally } }
  register r top
  return r

/-- Gives a realm up, and with it what it holds. -/
def dropRealm (r : RealmId) : Action Store Unit := do
  let registered ← Action.read fun s => (s.realm r).registered
  Action.modify fun s => { s with world := registered.foldl World.release s.world }
  modifyRealm r fun m => { m with registered := [] }

/-! ### The register -/

/-- Whether a realm registered a namespace. -/
def isRegistered (s : Store) (r : RealmId) (i : NamespaceId) : Bool :=
  (s.realm r).registered.contains i

/-- The registered namespace that a value stands for. -/
def namespaceOf? (s : Store) (r : RealmId) (v : Value) : Option NamespaceId :=
  v.namespace?.filter (s.isRegistered r)

/-- How many namespaces a realm registered. -/
def namespaceCount (s : Store) (r : RealmId) : Nat := (s.realm r).registered.length

/-! ### Opening classes and modules -/

/-- What a name is bound to: nothing, a namespace of the kind that can be opened again, or something
else. -/
inductive Opening where
  | free
  | existing (i : NamespaceId)
  | occupied

/-- What opening a name in a scope meets. -/
def opening (s : Store) (r : RealmId) (name : String) (parent : NamespaceId) (kind : Kind) :
    Opening :=
  match s.world.local? parent name with
  | none => .free
  | some v =>
    match (s.namespaceOf? r v).filter fun i => (s.world.node i).kind == kind with
    | some i => .existing i
    | none => .occupied

/-- Binds a new namespace to its name and registers it. -/
def install (r : RealmId) (name : String) (parent : NamespaceId) (new : Action World NamespaceId) :
    Action Store NamespaceId := do
  let i ← onWorld (World.establish parent name new)
  register r i
  return i

/-- Opens a namespace again. -/
def reopened (i : NamespaceId) : Action Store NamespaceId := do
  let _ ← onWorld (World.reopen i)
  return i

/-- **Opens a class.**  A superclass that is given has to be the one that the class has. -/
def openClass (r : RealmId) (name : String) (parent : NamespaceId)
    (superclass : Option NamespaceId) : Action Store NamespaceId :=
  if isConstantName name then do
    let s ← Action.get
    match s.opening r name parent .classScope with
    | .free => install r name parent (World.newClass name parent superclass)
    | .existing i =>
      if superclass.isSome && superclass != (s.world.node i).superclass then
        Action.raise (.superclassMismatch name)
      else reopened i
    | .occupied => Action.raise (.notAClass name)
  else Action.raise (.wrongName name)

/-- **Opens a module.** -/
def openModule (r : RealmId) (name : String) (parent : NamespaceId) : Action Store NamespaceId :=
  if isConstantName name then do
    let s ← Action.get
    match s.opening r name parent .moduleScope with
    | .free => install r name parent (World.newModule name parent)
    | .existing i => reopened i
    | .occupied => Action.raise (.notAModule name)
  else Action.raise (.wrongName name)

/-! ### Sites of a realm -/

/-- The sites of a realm that somebody holds, oldest first. -/
def liveSites (s : Store) (r : RealmId) : List SiteId := (s.realm r).sites.filter s.isHeld

/-- How many sites of a realm somebody holds. -/
def siteCount (s : Store) (r : RealmId) : Nat := (s.liveSites r).length

/-- Forgets the sites of a realm that nobody holds. -/
def pruneSites (r : RealmId) : Action Store Unit := do
  let live ← Action.read fun s => s.liveSites r
  modifyRealm r fun m => { m with sites := live }

/-- **Makes a reference site** in a realm. -/
def makeSite (r : RealmId) (name : String) (position : Position) : Action Store SiteId := do
  let m ← Action.read fun s => s.realm r
  let k ← newSite name position m.policy m.tally
  pruneSites r
  modifyRealm r fun m => { m with sites := m.sites ++ [k] }
  return k

/-- Invalidates a row of sites. -/
def invalidateEach : List SiteId → Action Store Unit
  | [] => return ()
  | k :: ks => do
    invalidate k
    invalidateEach ks

/-- **Invalidates every live site of a realm**, and gives their number. -/
def invalidateAll (r : RealmId) : Action Store Nat := do
  pruneSites r
  let live ← Action.read fun s => s.liveSites r
  invalidateEach live
  Action.note (.invalidatedAll live.length)
  return live.length

end ConstantResolution.Store
