import ConstantResolution.Benchmark.Workload

/-! # Commands

The language of sessions: what a session can be told to do, with everything it speaks of given by
the name of its holder, and the answers. -/

namespace ConstantResolution

/-- A scope as it is written in a command. -/
inductive ScopeTerm where
  | heldNamespace (holder : String)
  | heldStub (holder : String)

/-- The context of an evaluation: a scope, and perhaps the namespace from whose context it was
entered. -/
structure ContextTerm where
  scope : ScopeTerm
  enteredFrom : Option String

/-- Counters as they are written in a command. -/
inductive TallyTerm where
  | ofRealm (holder : String)
  | heldTally (holder : String)

/-- What a session can be told to do. -/
inductive Command where
  -- namespaces
  | openClass (holder name parent : String) (superclass : Option String) (realm : String)
  | openModule (holder name parent : String) (realm : String)
  | newClass (holder name parent : String) (superclass : Option String)
  | newModule (holder name parent : String)
  | newTopLevel (holder : String)
  | dropNamespace (holder : String)
  | define (ns name : String) (value : ValueTerm)
  | remove (ns name : String)
  | includeModule (ns mixin : String)
  | reopen (ns : String)
  | lookup (ns name : String)
  | localConstant (ns name : String)
  | isDefined (ns name : String)
  | names (ns : String)
  | ancestors (ns : String)
  | dispatch (ns name : String)
  | inspect (ns : String)
  | describe (ns : String)
  | setHandler (ns : String) (label : Option String) (response : Response)
  -- scopes
  | newStub (holder : String) (stub : Stub)
  | setStub (holder : String) (entry : Option (String × Option ValueTerm))
      (generation : Option UInt64)
  | inspectStub (holder : String)
  | survey (context : ContextTerm) (name : String)
  -- sites
  | newSite (holder name : String) (position : Position) (realm : String)
  | newFreeSite (holder name : String) (position : Position) (policy : Policy) (tally : TallyTerm)
  | dropSite (holder : String)
  | evaluate (site : String) (context : ContextTerm) (times : Nat)
  | resolve (site : String) (context : ContextTerm)
  | siteDefined (site : String) (context : ContextTerm)
  | definition (site : String) (context : ContextTerm)
  | invalidate (site : String)
  | rename (site name : String)
  | inspectSite (site : String)
  | describeSite (site : String)
  -- realms and counters
  | newRealm (holder : String) (policy : Policy)
  | policy (realm : String)
  | counts (realm : String)
  | invalidateAll (realm : String)
  | namespaceById (id : NamespaceId) (realm : String)
  | namespaceOf (value : ValueTerm) (realm : String)
  | newTally (holder : String)
  | record (tally : TallyTerm) (event : Count) (times : Nat)
  | inspectTally (tally : TallyTerm)
  | work (realm : String) (workload : Workload) (iterations : UInt64)

/-! ### Answers -/

/-- A namespace by number and path. -/
structure NamespaceRef where
  id : NamespaceId
  path : String
deriving DecidableEq

/-- All that can be asked about a namespace. -/
structure NamespaceInfo where
  id : NamespaceId
  name : String
  path : String
  kind : Kind
  isTopLevel : Bool
  generation : UInt64
  dependents : Nat
  parent : Option NamespaceRef
  superclass : Option NamespaceRef
  names : List String
deriving DecidableEq

/-- All that can be asked about counters, and how they grew since they were last asked. -/
structure TallyInfo where
  tally : Tally
  growth : Tally
  hitRate : Binary64
  same : Bool
deriving DecidableEq

/-- What a command gives. -/
inductive Answer where
  | done
  | flag (b : Bool)
  | number (n : Nat)
  | value (v : Option Value)
  | word (s : Option String)
  | words (l : List String)
  | ref (r : Option NamespaceRef)
  | refs (rs : List NamespaceRef)
  | namespaceInfo (info : NamespaceInfo)
  | stubInfo (generation : UInt64) (lookups : Nat)
  | survey (s : Scope.Survey)
  | site (s : Site)
  | policy (p : Policy)
  | counts (namespaces sites : Nat)
  | tallyInfo (info : TallyInfo)
deriving DecidableEq

end ConstantResolution
