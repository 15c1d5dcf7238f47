import ConstantResolution.World.Change

/-! # Names that are missing

A name that does not resolve is handed to the nearest handler on the chain of superclasses, together
with the scope that it was looked up from.  Without a handler it is an error.

A handler speaks of other namespaces by names that hold them, and such a name means what it holds
when the handler is called. -/

namespace ConstantResolution.World

/-- The handler for a scope: its own, or that of the nearest superclass that has one. -/
def handler? (w : World) (i : NamespaceId) : Option Handler :=
  (i :: w.superclasses i).findSome? fun j => (w.node j).handler

/-- The error for a name that is missing in a scope. -/
def uninitialized (w : World) (i : NamespaceId) (name : String) : Cause :=
  .uninitialized (if w.isTopLevel i then none else some (w.qualifiedName i)) name

/-- The namespace that a name outside of the world holds. -/
def heldBy (holder : String) : Action World NamespaceId := do
  match (← Action.get).held.get? holder with
  | some i => return i
  | none => Action.fail (.unbound holder)

/-- The value that is spoken of. -/
def valueOf : ValueTerm → Action World Value
  | .value v => return v
  | .heldNamespace holder => do return .ns (← heldBy holder)

/-- The note of a call, when the handler has a label. -/
def recordCall (h : Handler) (i : NamespaceId) (name : String) : Action World Unit := do
  match h.label with
  | none => return ()
  | some label =>
    let w ← Action.get
    Action.note (.called ⟨label, w.qualifiedName i, name⟩)

/-- The answer of a handler, with `again` for those that let another namespace answer. -/
def respond (again : NamespaceId → Action World Value) (i : NamespaceId) (name : String) :
    Response → Action World Value
  | .refuse => do Action.raise ((← Action.get).uninitialized i name)
  | .describe => do return .str (((← Action.get).node i).name ++ "#" ++ name)
  | .symbol => return .sym name
  | .value v => valueOf v
  | .define v => do
    let v ← valueOf v
    let _ ← define i name v
    return v
  | .defineIn target v => do
    let v ← valueOf v
    let _ ← define (← heldBy target) name v
    return v
  | .lookup other => do
    let w ← Action.get
    match w.lookup i other with
    | some v => return v
    | none => Action.raise (w.uninitialized i other)
  | .forward target => do again (← heldBy target)
  | .fail e => Action.fail (.raised e)

/-- Dispatch over at most `bound` handlers that let another namespace answer. -/
def dispatchWithin : Nat → NamespaceId → String → Action World Value
  | 0, _, _ => Action.fault .endlessDispatch
  | bound + 1, i, name => do
    match (← Action.get).handler? i with
    | none => respond (fun _ => Action.fault .endlessDispatch) i name .refuse
    | some h =>
      recordCall h i name
      respond (fun target => dispatchWithin bound target name) i name h.response

/-- **Hands a missing name to the handler of a scope.**  A chain of handlers that is longer than the
world has namespaces comes back to one of them, and has no end. -/
def dispatch (i : NamespaceId) (name : String) : Action World Value := fun w =>
  dispatchWithin (w.size + 1) i name w

end ConstantResolution.World
