import ConstantResolution.Site.Basic
import ConstantResolution.Site.Scope

/-! # Resolution at a site

A memo made at the present generation of the scope is served without a lookup.  Otherwise the name
is looked up, and the result takes the place of the memo.  The generation is read before the
lookup: a scope that moves on during the lookup leaves a memo behind that is already out of date.

A policy without memos looks every name up, and counts no more than that. -/

namespace ConstantResolution

/-- What an evaluation works on: the site, the counters that it reports to, and the scope. -/
structure Reading (σ : Type) where
  site : Site
  tally : Tally
  scope : σ

namespace Reading

variable {σ : Type}

/-- Counts events. -/
def count (events : List Count) : Action (Reading σ) Unit :=
  Action.modify fun r => { r with tally := r.tally.recordAll events }

/-- Changes the site. -/
def modifySite (f : Site → Site) : Action (Reading σ) Unit :=
  Action.modify fun r => { r with site := f r.site }

/-- Looks the name of the site up. -/
def lookUp (c : Scope σ) : Action (Reading σ) (Option Value) := fun r =>
  let (found, scope) := c.lookup r.site.name r.scope
  ⟨{ r with scope }, [], .ok found⟩

/-- Counts one lookup in the row, and reports the site when the row has become long enough. -/
def trackStreak : Action (Reading σ) Unit := do
  let site ← Action.read Reading.site
  if site.policy.threshold = 0 then return ()
  else
    modifySite Site.countLookup
    if site.streak = Site.lastStreak then Action.fault (.overflow .streak)
    else
      let site ← Action.read Reading.site
      if site.isThrashing then
        modifySite Site.markReported
        count [.thrashing]
        Action.note (.thrashing site.name site.streak)
      else return ()

/-- Resolves by a full lookup, and keeps the result. -/
def refresh (c : Scope σ) : Action (Reading σ) (Option Value) := do
  let generation ← Action.read fun r => c.generation r.scope
  let found ← lookUp c
  count ([.miss, .lookup] ++ if found.isSome then [] else [.notFound])
  modifySite fun s => s.store generation found
  let name ← Action.read fun r => r.site.name
  Action.note (.resolved name generation found.isSome)
  trackStreak
  return found

/-- **What the name of a site resolves to in a scope.** -/
def resolve (c : Scope σ) : Action (Reading σ) (Option Value) := do
  let r ← Action.get
  if r.site.policy.enabled then
    match r.site.served? (c.generation r.scope) with
    | some v =>
      count [.hit]
      modifySite Site.endStreak
      return some v
    | none => refresh c
  else
    count [.miss, .lookup]
    lookUp c

/-- Hands the name to the scope as a missing one. -/
def dispatch (c : Scope σ) : Action (Reading σ) Value := do
  let name ← Action.read fun r => r.site.name
  Action.within Reading.scope (fun scope r => { r with scope }) (c.missing name)

/-- **The value of a site.**  A name that does not resolve is handed to the scope, and an error then
has the position of the site, unless it has one already. -/
def evaluate (c : Scope σ) : Action (Reading σ) Value := do
  match ← resolve c with
  | some v => return v
  | none => Action.locating (← Action.read fun r => r.site.position) (dispatch c)

/-- Whether the name of a site resolves. -/
def isDefined (c : Scope σ) : Action (Reading σ) Bool := do
  return (← resolve c).isSome

/-- The word for what a site refers to, when its name resolves. -/
def definition (c : Scope σ) : Action (Reading σ) (Option String) := do
  return if ← isDefined c then some "constant" else none

/-- **Makes the next resolution a full lookup.** -/
def invalidate : Action (Reading σ) Unit := do
  modifySite Site.forget
  count [.invalidation]
  Action.note (.invalidated (← Action.read fun r => r.site.name))

end Reading
end ConstantResolution
