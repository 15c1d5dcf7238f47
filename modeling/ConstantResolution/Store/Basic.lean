import ConstantResolution.Site.Resolve
import ConstantResolution.World.Liveness

/-! # Stores

A store holds what the parts of a running program share: one world of namespaces, the realms in it,
the reference sites, and the counters that the sites report to.  A realm is an interpreter of its
own: it has a top level, a policy, counters, and a register of the classes and modules opened
through it.  It knows its sites without holding them. -/

namespace ConstantResolution

/-- The number of a site, in order of creation from 0 on. -/
abbrev SiteId := Nat

/-- The number of a set of counters, in order of creation from 0 on. -/
abbrev TallyId := Nat

/-- The number of a realm, in order of creation from 0 on. -/
abbrev RealmId := Nat

/-- A site with the counters that it reports to, as long as somebody holds it. -/
structure PlacedSite where
  site : Site
  tally : TallyId
  held : Bool := true
deriving DecidableEq

/-- An interpreter. -/
structure Realm where
  policy : Policy := {}
  top : NamespaceId := 0
  tally : TallyId := 0
  /-- the namespaces that it holds: the top level and all that was opened through it -/
  registered : List NamespaceId := []
  /-- the sites made through it, oldest first, in which some may no longer be held -/
  sites : List SiteId := []
deriving DecidableEq, Inhabited

/-- A store. -/
structure Store where
  world : World := {}
  tallies : Array Tally := #[]
  sites : Array PlacedSite := #[]
  realms : Array Realm := #[]
deriving DecidableEq, Inhabited

namespace Store

/-! ### Parts of a store -/

/-- The counters with a number. -/
def tally (s : Store) (t : TallyId) : Tally := s.tallies.getD t {}

/-- The realm with a number. -/
def realm (s : Store) (r : RealmId) : Realm := s.realms.getD r {}

/-- The site with a number. -/
def site? (s : Store) (k : SiteId) : Option PlacedSite := s.sites[k]?

/-- Whether somebody holds a site. -/
def isHeld (s : Store) (k : SiteId) : Bool := (s.site? k).any PlacedSite.held

/-- An action on the world. -/
def onWorld {α : Type} (x : Action World α) : Action Store α :=
  Action.within Store.world (fun world s => { s with world }) x

def setTally (s : Store) (t : TallyId) (v : Tally) : Store :=
  { s with tallies := s.tallies.setIfInBounds t v }

def setSite (s : Store) (k : SiteId) (v : Site) : Store :=
  { s with sites := s.sites.modify k fun p => { p with site := v } }

def modifyRealm (r : RealmId) (f : Realm → Realm) : Action Store Unit :=
  Action.modify fun s => { s with realms := s.realms.modify r f }

/-! ### Counters and sites -/

/-- Makes counters. -/
def newTally : Action Store TallyId := fun s =>
  ⟨{ s with tallies := s.tallies.push {} }, [], .ok s.tallies.size⟩

/-- Counts an event. -/
def record (t : TallyId) (event : Count) : Action Store Unit :=
  Action.modify fun s => s.setTally t ((s.tally t).record event)

/-- Makes a site that no realm knows of. -/
def newSite (name : String) (position : Position) (policy : Policy) (t : TallyId) :
    Action Store SiteId := fun s =>
  match Site.new name position policy with
  | .ok site => ⟨{ s with sites := s.sites.push ⟨site, t, true⟩ }, [], .ok s.sites.size⟩
  | .error f => ⟨s, [.fault f], .error (.fault f)⟩

/-- Gives a site up. -/
def dropSite (k : SiteId) : Action Store Unit :=
  Action.modify fun s => { s with sites := s.sites.modify k fun p => { p with held := false } }

/-- The site with a number. -/
def placed (k : SiteId) : Action Store PlacedSite := fun s =>
  match s.site? k with
  | some p => ⟨s, [], .ok p⟩
  | none => ⟨s, [], .error (.unbound (toString k))⟩

/-- Gives a site another name. -/
def renameSite (k : SiteId) (name : String) : Action Store Unit := do
  let p ← placed k
  match p.site.rename name with
  | .ok site => Action.modify fun s => s.setSite k site
  | .error c => Action.raise c

/-- What an evaluation of a site works on, in a scope of the world. -/
def reading (s : Store) (p : PlacedSite) : Reading World := ⟨p.site, s.tally p.tally, s.world⟩

/-- Puts back what an evaluation worked on. -/
def putReading (k : SiteId) (t : TallyId) (r : Reading World) (s : Store) : Store :=
  { (s.setSite k r.site).setTally t r.tally with world := r.scope }

/-- An action on a site and its counters, in a scope of the world. -/
def atSite {α : Type} (k : SiteId) (x : Action (Reading World) α) : Action Store α := do
  let p ← placed k
  Action.within (fun s => s.reading p) (putReading k p.tally) x

/-- The value of a site in a namespace. -/
def evaluate (k : SiteId) (i : NamespaceId) : Action Store Value :=
  atSite k (Reading.evaluate (World.scope i))

/-- Makes the next resolution of a site a full lookup. -/
def invalidate (k : SiteId) : Action Store Unit := atSite k Reading.invalidate

end Store
end ConstantResolution
