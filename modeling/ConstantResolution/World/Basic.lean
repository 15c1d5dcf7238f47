import ConstantResolution.Dictionary
import ConstantResolution.Value
import ConstantResolution.Failure

/-! # Worlds of namespaces

A world holds every namespace that was ever created, at its number.  A namespace knows the scope
that it is written in, its superclass and the modules that it includes; it holds these, and is
known to them as a dependent without being held.  A namespace that nothing holds any more is dead:
it stays at its number, but takes no part in anything. -/

namespace ConstantResolution

/-- The constants of a namespace. -/
abbrev Table := Dictionary Value

/-! ### Missing-name handlers -/

/-- A value that is spoken of: itself, or the class or module that a name holds at that time. -/
inductive ValueTerm where
  | value (v : Value)
  | heldNamespace (holder : String)
deriving DecidableEq, Inhabited

/-- What a handler does with a scope and a name that does not resolve there.  The names that it
speaks by mean what they hold when it is called. -/
inductive Response where
  /-- Raises the error for names that are not initialized. -/
  | refuse
  /-- Gives a text of the scope's name and the name. -/
  | describe
  /-- Gives the name as a symbol. -/
  | symbol
  | value (v : ValueTerm)
  /-- Binds the name in the scope passed, and gives the value. -/
  | define (v : ValueTerm)
  /-- Binds the name in the namespace that `target` holds, and gives the value. -/
  | defineIn (target : String) (v : ValueTerm)
  /-- Looks another name up from the scope passed, and refuses that one if it is missing. -/
  | lookup (name : String)
  /-- Lets the namespace answer that `target` holds. -/
  | forward (target : String)
  | fail (error : RaisedError)
deriving DecidableEq, Inhabited

/-- A handler; one with a label has its calls recorded. -/
structure Handler where
  label : Option String
  response : Response
deriving DecidableEq, Inhabited

/-! ### Namespaces -/

/-- What kind of scope a namespace is. -/
inductive Kind where
  /-- The scope outside of all others. -/
  | topLevel
  | classScope
  /-- A module, which can be included. -/
  | moduleScope
deriving DecidableEq, Inhabited

/-- The name of a kind. -/
def Kind.text : Kind → String
  | .topLevel => "TopLevel"
  | .classScope => "Class"
  | .moduleScope => "Module"

/-- A namespace. -/
structure Namespace where
  /-- its name within the scope that it is written in -/
  name : String
  kind : Kind
  /-- the scope that it is written in -/
  parent : Option NamespaceId := none
  superclass : Option NamespaceId := none
  /-- the included modules, oldest first -/
  includes : List NamespaceId := []
  constants : Table := {}
  /-- advances with every change of what resolves through this namespace -/
  generation : UInt64 := 0
  /-- the namespaces that named this one as parent, superclass or module, once for each time -/
  dependents : List NamespaceId := []
  handler : Option Handler := none
  /-- how often it is held from outside the world -/
  holders : Nat := 0
  alive : Bool := true
deriving DecidableEq

/-- What stands at the numbers that no namespace has. -/
def Namespace.absent : Namespace := { name := "", kind := .topLevel, alive := false }

instance : Inhabited Namespace := ⟨.absent⟩

/-! ### Worlds -/

/-- The namespaces, and names outside of the world that hold some of them. -/
structure World where
  /-- in order of creation; the first has number 1 -/
  nodes : Array Namespace := #[]
  /-- the namespaces that names hold -/
  held : Dictionary NamespaceId := {}
deriving DecidableEq, Inhabited

namespace World

/-- The greatest number given. -/
def size (w : World) : Nat := w.nodes.size

/-- The namespace with a number. -/
def get? (w : World) : NamespaceId → Option Namespace
  | 0 => none
  | i + 1 => w.nodes[i]?

/-- The namespace with a number, and an absent one where there is none. -/
def node (w : World) (i : NamespaceId) : Namespace := (w.get? i).getD .absent

/-- Changes the namespace with a number. -/
def update (w : World) (i : NamespaceId) (f : Namespace → Namespace) : World :=
  match i with
  | 0 => w
  | i + 1 => { w with nodes := w.nodes.modify i f }

/-- Adds a namespace under the next number. -/
def push (w : World) (n : Namespace) : World := { w with nodes := w.nodes.push n }

/-- The numbers given. -/
def ids (w : World) : List NamespaceId := (List.range w.size).map (· + 1)

/-! ### How a change of one namespace is seen -/

@[simp] theorem get?_zero (w : World) : w.get? 0 = none := rfl

theorem get?_eq_some_lt {w : World} {i : NamespaceId} {n : Namespace} (h : w.get? i = some n) :
    0 < i ∧ i ≤ w.size := by
  cases i with
  | zero => simp at h
  | succ i =>
    obtain ⟨hi, -⟩ := Array.getElem?_eq_some_iff.mp (show w.nodes[i]? = some n from h)
    exact ⟨Nat.succ_pos i, hi⟩

@[simp] theorem size_update (w : World) (i : NamespaceId) (f : Namespace → Namespace) :
    (w.update i f).size = w.size := by
  cases i <;> simp [update, size]

@[simp] theorem held_update (w : World) (i : NamespaceId) (f : Namespace → Namespace) :
    (w.update i f).held = w.held := by
  cases i <;> rfl

@[simp] theorem held_push (w : World) (n : Namespace) : (w.push n).held = w.held := rfl

theorem get?_update (w : World) (i j : NamespaceId) (f : Namespace → Namespace) :
    (w.update i f).get? j = if i = j then (w.get? j).map f else w.get? j := by
  cases i with
  | zero =>
    by_cases h : 0 = j
    · subst h; simp [update]
    · simp [update, h]
  | succ i =>
    cases j with
    | zero => simp [get?]
    | succ j =>
      simp only [update, get?, Array.getElem?_modify, Nat.succ_eq_add_one, Nat.add_right_cancel_iff]

theorem get?_update_of_ne (w : World) {i j : NamespaceId} (h : i ≠ j) (f : Namespace → Namespace) :
    (w.update i f).get? j = w.get? j := by
  rw [get?_update, if_neg h]

@[simp] theorem size_push (w : World) (n : Namespace) : (w.push n).size = w.size + 1 := by
  simp [push, size]

theorem get?_push (w : World) (n : Namespace) (j : NamespaceId) :
    (w.push n).get? j = if j = w.size + 1 then some n else w.get? j := by
  cases j with
  | zero => simp
  | succ j => simp [push, get?, Array.getElem?_push, size]

/-! ### Parts of a namespace -/

def generation (w : World) (i : NamespaceId) : UInt64 := (w.node i).generation

def isAlive (w : World) (i : NamespaceId) : Bool := (w.node i).alive

def isTopLevel (w : World) (i : NamespaceId) : Bool := (w.node i).kind == .topLevel

/-- A constant of a namespace itself. -/
def local? (w : World) (i : NamespaceId) (name : String) : Option Value :=
  (w.node i).constants.get? name

end World
end ConstantResolution
