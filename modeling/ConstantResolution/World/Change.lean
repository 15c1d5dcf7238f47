import ConstantResolution.Action
import ConstantResolution.Text.Forms
import ConstantResolution.World.Liveness
import ConstantResolution.World.Lookup

/-! # Changes of a world

Every change of what resolves through a namespace advances its generation and the generation of all
live namespaces that resolve through it.  A change that is refused leaves the world as it is. -/

namespace ConstantResolution.World

/-! ### Propagation -/

/-- The live namespaces that depend on a namespace directly. -/
def liveDependents (w : World) (i : NamespaceId) : List NamespaceId :=
  (w.node i).dependents.filter w.isAlive

/-- How many live namespaces depend on a namespace, counted once for each way. -/
def dependentCount (w : World) (i : NamespaceId) : Nat := (w.liveDependents i).length

/-- A namespace and all live namespaces that depend on it, over any number of steps. -/
def affected (w : World) (i : NamespaceId) : List NamespaceId :=
  visit w.liveDependents (w.size + 1) [] i

/-- The greatest generation. -/
def lastGeneration : UInt64 := 0xFFFFFFFFFFFFFFFF

/-- Sets a generation. -/
def setGeneration (w : World) (i : NamespaceId) (g : UInt64) : World :=
  w.update i fun n => { n with generation := g }

/-- Advances the generations of a row of namespaces.  At the greatest one the counter runs over and
the advance stops there. -/
def advance (w : World) : List NamespaceId → World × Option Fault
  | [] => (w, none)
  | i :: is =>
    let w' := w.setGeneration i (w.generation i + 1)
    if w.generation i = lastGeneration then (w', some (.overflow .generation)) else w'.advance is

/-- **Advances a namespace with all that depends on it**, and gives its new generation. -/
def bump (i : NamespaceId) : Action World UInt64 := fun w =>
  match w.advance (w.affected i) with
  | (w', none) => ⟨w', [], .ok (w'.generation i)⟩
  | (w', some f) => ⟨w', [.fault f], .error (.fault f)⟩

/-! ### Constants -/

/-- Binds a name in a namespace, without more. -/
def bind (w : World) (i : NamespaceId) (name : String) (v : Value) : World :=
  w.update i fun n => { n with constants := n.constants.insert name v }

/-- Takes a name out of a namespace, without more. -/
def unbind (w : World) (i : NamespaceId) (name : String) : World :=
  w.update i fun n => { n with constants := n.constants.erase name }

/-- **Binds a constant**, and gives the value that it had before.  An equal value counts as a change
too. -/
def define (i : NamespaceId) (name : String) (v : Value) : Action World (Option Value) :=
  if isConstantName name then do
    let w ← Action.get
    let previous := w.local? i name
    Action.modify fun w => w.bind i name v
    let g ← bump i
    Action.note (.defined previous.isSome (w.qualifiedName i) name g)
    return previous
  else Action.raise (.wrongName name)

/-- **Removes a constant** of a namespace itself, and gives the value that it had. -/
def remove (i : NamespaceId) (name : String) : Action World (Option Value) := do
  let w ← Action.get
  match w.local? i name with
  | none => return none
  | some v =>
    Action.modify fun w => w.unbind i name
    let g ← bump i
    Action.note (.removed (w.qualifiedName i) name g)
    return some v

/-! ### Links -/

/-- Lets a namespace know another one as its dependent. -/
def addDependent (w : World) (i dependent : NamespaceId) : World :=
  w.update i fun n => { n with dependents := n.dependents ++ [dependent] }

/-- Adds a module to those that a namespace includes, without more. -/
def link (w : World) (i m : NamespaceId) : World :=
  (w.update i fun n => { n with includes := n.includes ++ [m] }).addDependent m i

/-- **Includes a module.**  One that is an ancestor already changes nothing. -/
def includeModule (i m : NamespaceId) : Action World Unit := do
  let w ← Action.get
  if (w.node m).kind ≠ .moduleScope then Action.raise (.notModule (w.qualifiedName m))
  else if m = i ∨ i ∈ w.ancestors m then Action.raise .cyclicInclude
  else if m ∈ w.ancestors i then return ()
  else
    Action.modify fun w => w.link i m
    let g ← bump i
    Action.note (.included (w.qualifiedName m) (w.qualifiedName i) g)

/-- **Opens the body of a namespace again.** -/
def reopen (i : NamespaceId) : Action World UInt64 := do
  let w ← Action.get
  let g ← bump i
  Action.note (.reopened (w.qualifiedName i) g)
  return g

/-- Installs a handler.  Nothing that resolves changes by it. -/
def setHandler (w : World) (i : NamespaceId) (h : Handler) : World :=
  w.update i fun n => { n with handler := some h }

/-! ### Creation -/

/-- Adds a namespace and makes it known to its parent and its superclass. -/
def create (w : World) (n : Namespace) : World :=
  let id := w.size + 1
  let w := w.push n
  let w := n.parent.elim w fun p => w.addDependent p id
  n.superclass.elim w fun s => w.addDependent s id

/-- Creates a namespace, and gives its number. -/
def newNode (n : Namespace) : Action World NamespaceId := do
  let w ← Action.get
  Action.modify fun w => w.create n
  return w.size + 1

/-- The name of a top level. -/
def topLevelName : String := "Object"

/-- **Creates a top level.** -/
def newTopLevel : Action World NamespaceId := newNode { name := topLevelName, kind := .topLevel }

/-- **Creates a class** that is written in `parent`. -/
def newClass (name : String) (parent : NamespaceId) (superclass : Option NamespaceId) :
    Action World NamespaceId := do
  let w ← Action.get
  match superclass.filter fun s => (w.node s).kind == .moduleScope with
  | some s => Action.raise (.superclassNotClass (w.qualifiedName s))
  | none => newNode { name, kind := .classScope, parent := some parent, superclass }

/-- **Creates a module** that is written in `parent`. -/
def newModule (name : String) (parent : NamespaceId) : Action World NamespaceId :=
  newNode { name, kind := .moduleScope, parent := some parent }

/-- **Creates a namespace and binds it to a name.**  Nothing holds it yet, so it dies at once where the
binding fails. -/
def establish (parent : NamespaceId) (name : String) (new : Action World NamespaceId) :
    Action World NamespaceId := do
  let i ← new
  match ← Action.outcome (define parent name (.ns i)) with
  | .ok _ => return i
  | .error e =>
    Action.modify fun w => w.bury i
    Action.fail e

end ConstantResolution.World
