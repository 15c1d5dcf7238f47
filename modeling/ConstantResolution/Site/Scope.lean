import ConstantResolution.World.Dispatch

/-! # Scopes

What a reference site needs of the scope that it is evaluated in: a generation, lookup, and an
answer for names that are missing.  Namespaces are scopes; a stub is another one, with a table and
a generation that are set from outside. -/

namespace ConstantResolution

/-- A scope over states of type `σ`.  A lookup may change the state. -/
structure Scope (σ : Type) where
  generation : σ → UInt64
  lookup : String → σ → Option Value × σ
  missing : String → Action σ Value

namespace Scope

variable {σ : Type}

/-- Whether a name resolves, by one lookup. -/
def isDefined (c : Scope σ) (name : String) (s : σ) : Bool × σ :=
  let (found, s) := c.lookup name s
  (found.isSome, s)

/-- What a scope says about a name. -/
structure Survey where
  generation : UInt64
  found : Option Value
  defined : Bool
  missing : Except Failure Value
  /-- the generation after all these questions -/
  after : UInt64
deriving DecidableEq

/-- Asks a scope for its generation, for a name, whether the name is defined, and what it does when
the name is missing. -/
def survey (c : Scope σ) (name : String) : Action σ Survey := do
  let generation ← Action.read c.generation
  let found ← asking fun s => c.lookup name s
  let defined ← asking fun s => c.isDefined name s
  let missing ← Action.outcome (c.missing name)
  let after ← Action.read c.generation
  return { generation, found, defined, missing, after }
where
  /-- A question that may change the state. -/
  asking {α : Type} (f : σ → α × σ) : Action σ α := fun s =>
    let (a, s) := f s
    ⟨s, [], .ok a⟩

end Scope

/-- A namespace as a scope.  Its lookups change nothing. -/
def World.scope (i : NamespaceId) : Scope World where
  generation := fun w => w.generation i
  lookup := fun name w => (w.lookup i name, w)
  missing := World.dispatch i

/-! ### Stubs -/

/-- A scope by itself. -/
structure Stub where
  table : Table := {}
  generation : UInt64 := 0
  /-- how often it was asked for a name -/
  lookups : Nat := 0
  /-- what each lookup adds to the generation after reading the table -/
  bumpOnLookup : UInt64 := 0
  /-- the error for missing names; without it they give themselves as symbols -/
  missing : Option RaisedError := none
deriving DecidableEq, Inhabited

namespace Stub

/-- One lookup. -/
def lookup (name : String) (s : Stub) : Option Value × Stub :=
  (s.table.get? name,
    { s with lookups := s.lookups + 1, generation := s.generation + s.bumpOnLookup })

/-- A stub as a scope. -/
def scope : Scope Stub where
  generation := Stub.generation
  lookup := lookup
  missing := fun name => do
    match (← Action.get).missing with
    | none => return .sym name
    | some e => Action.fail (.raised e)

/-- Sets or removes an entry. -/
def setEntry (s : Stub) (name : String) (v : Option Value) : Stub :=
  match v with
  | some v => { s with table := s.table.insert name v }
  | none => { s with table := s.table.erase name }

end Stub
end ConstantResolution
