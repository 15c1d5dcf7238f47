import ConstantResolution.World.Basic
import ConstantResolution.World.Traversal

/-! # Lookup

The path of a namespace lists the tables that a name is looked up in: its own, those of the scopes
around it without the top level, those of its ancestors, and at last that of the top level. -/

namespace ConstantResolution.World

/-! ### Scopes around a namespace -/

/-- The scopes around a namespace, innermost first.  A scope is older than what is written in it, so
the number of a namespace bounds how many there are. -/
def enclosing (w : World) (i : NamespaceId) : List NamespaceId :=
  ascend (fun j => (w.node j).parent) i i

/-- The scopes around a namespace without the top level. -/
def lexicalScopes (w : World) (i : NamespaceId) : List NamespaceId :=
  (w.enclosing i).takeWhile fun j => !w.isTopLevel j

/-- The outermost scope around a namespace, when it is a top level. -/
def root? (w : World) (i : NamespaceId) : Option NamespaceId :=
  (w.enclosing i).getLast?.filter w.isTopLevel

/-- The names of a namespace and of the scopes around it, outermost first. -/
def segments (w : World) (i : NamespaceId) : List String :=
  ((i :: w.lexicalScopes i).map fun j => (w.node j).name).reverse

/-- **The path of names that leads to a namespace.**  The top level is left out. -/
def qualifiedName (w : World) (i : NamespaceId) : String := "::".intercalate (w.segments i)

/-! ### Ancestors -/

/-- The superclasses of a namespace, nearest first. -/
def superclasses (w : World) (i : NamespaceId) : List NamespaceId :=
  ascend (fun j => (w.node j).superclass) i i

/-- The direct ancestors: the modules included, last one first, and then the superclass. -/
def uplinks (w : World) (i : NamespaceId) : List NamespaceId :=
  (w.node i).includes.reverse ++ (w.node i).superclass.toList

/-- **The ancestors of a namespace in order of lookup**: depth first, each at the place where the walk
first comes to it.  None is listed again, so one that several others share stands behind the first of
these and may stand before the rest. -/
def ancestors (w : World) (i : NamespaceId) : List NamespaceId :=
  visitAll w.uplinks w.size [] (w.uplinks i)

/-! ### Lookup -/

/-- The tables that a name is looked up in, in order. -/
def path (w : World) (i : NamespaceId) : List NamespaceId :=
  i :: w.lexicalScopes i ++ w.ancestors i ++ (w.root? i).toList

/-- **What a name resolves to from a namespace.** -/
def lookup (w : World) (i : NamespaceId) (name : String) : Option Value :=
  (w.path i).findSome? fun j => w.local? j name

end ConstantResolution.World
