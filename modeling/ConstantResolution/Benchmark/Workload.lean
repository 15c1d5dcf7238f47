import ConstantResolution.Store.Realm

/-! # Workloads

Programs that evaluate one site many times, each of which keeps to one path through the memo: reads
of a constant that never changes, reads after a redefinition, forced lookups, names that are
missing, and reads from several threads. -/

namespace ConstantResolution

/-- Programs that perform a number of evaluations. -/
inductive Workload where
  /-- Reads of a constant that does not change. -/
  | repeatedReads
  /-- A redefinition before every read. -/
  | redefinedReads
  /-- An invalidation before every read. -/
  | forcedReads
  /-- Reads of a name that a handler answers. -/
  | answeredReads
  /-- Reads of one site from several threads. -/
  | sharedReads
  /-- Reads of a name that nothing answers. -/
  | refusedReads
  /-- Nothing at all. -/
  | idle
deriving DecidableEq, Inhabited

namespace Workload

open Store

/-- The value that a read must give. -/
def expect (expected actual : Value) : Action Store Unit :=
  if actual.same expected then return ()
  else Action.raise (.unexpectedValue expected.text actual.text)

/-- The top level of a realm. -/
def topOf (r : RealmId) : Action Store NamespaceId := Action.read fun s => (s.realm r).top

/-- A site that is given up at the end of its use. -/
def withSite {α : Type} (r : RealmId) (name : String) (use : SiteId → Action Store α) :
    Action Store α := do
  let k ← makeSite r name .unknown
  let result ← Action.outcome (use k)
  dropSite k
  Action.ofResult result

/-! ### A scope with a long path -/

/-- How many modules are mixed in. -/
def mixins : Nat := 16

/-- The constant that is read. -/
def target : String := "TARGET"

def targetValue : Value := .int 42

/-- A module, included in a class. -/
def mixIn (r : RealmId) (top inner : NamespaceId) (i : Nat) : Action Store Unit := do
  let m ← openModule r ("Mixin" ++ toString i) top
  onWorld (World.includeModule inner m)

/-- A class two modules deep with a superclass and many mixed-in modules.  The constant is bound at
the top level alone, so that a full lookup walks every scope and every ancestor. -/
def deepScope (r : RealmId) : Action Store NamespaceId := do
  let top ← topOf r
  let base ← openClass r "Base" top none
  let outer ← openModule r "Outer" top
  let middle ← openModule r "Middle" outer
  let inner ← openClass r "Inner" middle (some base)
  Action.times mixins 0 (mixIn r top inner)
  let _ ← onWorld (World.define top target targetValue)
  return inner

/-! ### The workloads -/

/-- Reads a site, and checks the value. -/
def readOnce (k : SiteId) (i : NamespaceId) (expected : Value) : Action Store Unit := do
  expect expected (← evaluate k i)

/-- Reads a site a number of times. -/
def readMany (k : SiteId) (i : NamespaceId) (expected : Value) (n : Nat) : Action Store Unit :=
  Action.times n 0 fun _ => readOnce k i expected

/-- Reads of a constant that does not change. -/
def readRepeatedly (r : RealmId) (n : UInt64) : Action Store Unit := do
  let scope ← deepScope r
  withSite r target fun k => readMany k scope targetValue n.toNat

/-- How many values a signed counter runs through, from 0 up to the bit pattern of a word. -/
def signedCount (n : UInt64) : Nat := if n.toNat < 0x8000000000000000 then n.toNat else 0

/-- Binds the constant to a number, and reads it. -/
def redefineAndRead (top scope : NamespaceId) (k : SiteId) (i : Nat) : Action Store Unit := do
  let _ ← onWorld (World.define top target (.int i))
  readOnce k scope (.int i)

/-- Reads of a constant that changes each time. -/
def readRedefined (r : RealmId) (n : UInt64) : Action Store Unit := do
  let scope ← deepScope r
  let top ← topOf r
  withSite r target fun k => Action.times (signedCount n) 0 (redefineAndRead top scope k)

/-- Invalidates the site, and reads it. -/
def invalidateAndRead (scope : NamespaceId) (k : SiteId) : Action Store Unit := do
  invalidate k
  readOnce k scope targetValue

/-- Reads without a memo to serve them. -/
def readForced (r : RealmId) (n : UInt64) : Action Store Unit := do
  let scope ← deepScope r
  withSite r target fun k => Action.times n.toNat 0 fun _ => invalidateAndRead scope k

/-- The name that a handler answers. -/
def absentName : String := "Absent"

/-- Reads that a handler of the top level answers. -/
def readAnswered (r : RealmId) (n : UInt64) : Action Store Unit := do
  let top ← topOf r
  onWorld (Action.modify fun w => w.setHandler top ⟨none, .symbol⟩)
  withSite r absentName fun k => readMany k top (.sym absentName) n.toNat

/-- How many threads share a site. -/
def threads : Nat := 4

/-- A fault in a thread is an error of those who wait for it. -/
def awaited {α : Type} : Except Failure α → Except Failure α
  | .error (.fault _) => .error (.raised ⟨.custom .internal "worker panicked", none⟩)
  | r => r

/-- Runs a row of threads in one of their schedules: each to its end before the next one starts.  The
first that failed decides.

Every read of a site counts one hit or one miss, by an addition that no other one can come between, and
nothing that the threads do makes a read give another value.  So how many hits and misses there are
together, and that each miss is a lookup, is the same in every schedule; how many of them are hits is
not. -/
def join : List (Action Store Unit) → Action Store Unit
  | [] => return ()
  | x :: xs => do
    let first ← Action.outcome x
    let rest ← Action.outcome (join xs)
    Action.ofResult (awaited first)
    Action.ofResult rest

/-- Reads from several threads, each of which has an equal part of them. -/
def readShared (r : RealmId) (n : UInt64) : Action Store Unit := do
  let scope ← deepScope r
  withSite r target fun k =>
    join (List.replicate threads (readMany k scope targetValue (n.toNat / threads)))

/-- The name that nothing answers. -/
def missingName : String := "Missing"

/-- Evaluates a site, whatever its value. -/
def evaluateOnce (k : SiteId) (i : NamespaceId) : Action Store Unit := do
  let _ ← evaluate k i
  return ()

/-- Reads from the top level, up to the first that fails. -/
def readRefused (r : RealmId) (n : UInt64) : Action Store Unit := do
  let top ← topOf r
  withSite r missingName fun k => Action.times n.toNat 0 fun _ => evaluateOnce k top

/-- **What a workload does in a realm.** -/
def perform : Workload → RealmId → UInt64 → Action Store Unit
  | .repeatedReads => readRepeatedly
  | .redefinedReads => readRedefined
  | .forcedReads => readForced
  | .answeredReads => readAnswered
  | .sharedReads => readShared
  | .refusedReads => readRefused
  | .idle => fun _ _ => return ()

end Workload
end ConstantResolution
