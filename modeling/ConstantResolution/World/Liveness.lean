import ConstantResolution.World.Basic

/-! # Life and death of namespaces

A namespace lives as long as something holds it: something outside of the world, a live namespace
that is written in it, a live subclass, or a live namespace that includes it.  Namespaces that hold
each other in a circle keep each other alive. -/

namespace ConstantResolution.World

/-- Whether a namespace holds another one by one of its links. -/
def holds (n : Namespace) (i : NamespaceId) : Bool :=
  n.parent == some i || n.superclass == some i || n.includes.contains i

/-- Whether anything holds a namespace. -/
def isHeld (w : World) (i : NamespaceId) : Bool :=
  0 < (w.node i).holders || w.nodes.any fun n => n.alive && holds n i

/-- The first live namespace that nothing holds. -/
def unheld? (w : World) : Option NamespaceId := w.ids.find? fun i => w.isAlive i && !w.isHeld i

/-- Lets a namespace die. -/
def bury (w : World) (i : NamespaceId) : World := w.update i fun n => { n with alive := false }

/-- Lets namespaces die that nothing holds, one after another, since each death can take the last
holder from others. -/
def collect : Nat → World → World
  | 0, w => w
  | bound + 1, w =>
    match w.unheld? with
    | none => w
    | some i => collect bound (w.bury i)

/-- Holds a namespace once more. -/
def retain (w : World) (i : NamespaceId) : World :=
  w.update i fun n => { n with holders := n.holders + 1 }

/-- **Gives up one hold of a namespace.**  What nothing holds then dies. -/
def release (w : World) (i : NamespaceId) : World :=
  let w := w.update i fun n => { n with holders := n.holders - 1 }
  collect w.size w

/-! ### Names that hold namespaces -/

/-- Lets a name hold a namespace; what it held before is given up. -/
def hold (w : World) (holder : String) (i : NamespaceId) : World :=
  let old := w.held.get? holder
  let w := { w with held := w.held.insert holder i }.retain i
  old.elim w w.release

/-- Lets a name hold no namespace any more. -/
def letGo (w : World) (holder : String) : World :=
  match w.held.get? holder with
  | none => w
  | some i => { w with held := w.held.erase holder }.release i

end ConstantResolution.World
