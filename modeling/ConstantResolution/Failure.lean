import ConstantResolution.Text.Forms

/-! # Positions and errors

An error is raised by the program that is interpreted, or handed to it: it has a cause and perhaps a
position.  A fault stops the interpreter itself.  Both have fixed words. -/

namespace ConstantResolution

/-! ### Positions in source text -/

/-- A place in a file. -/
structure Position where
  file : String
  line : Nat
  column : Nat
deriving DecidableEq, Inhabited

namespace Position

/-- The position of code that no file holds. -/
def unknown : Position := ⟨"(unknown)", 0, 0⟩

/-- File, line and column, with colons between them. -/
def text (p : Position) : String :=
  p.file ++ ":" ++ toString p.line ++ ":" ++ toString p.column

end Position

/-! ### Errors -/

/-- The kinds under which errors are reported. -/
inductive ErrorKind where
  | name
  | type
  | argument
  | internal
deriving DecidableEq, Inhabited

/-- The name of a kind. -/
def ErrorKind.text : ErrorKind → String
  | .name => "NameError"
  | .type => "TypeError"
  | .argument => "ArgumentError"
  | .internal => "InternalError"

/-- What went wrong. -/
inductive Cause where
  /-- A text that names no constant. -/
  | wrongName (name : String)
  /-- Lookup found nothing; `scope` is absent at the top level. -/
  | uninitialized (scope : Option String) (name : String)
  /-- A module was given as superclass. -/
  | superclassNotClass (path : String)
  /-- Something other than a module was included. -/
  | notModule (path : String)
  | cyclicInclude
  /-- A class was opened under a name that is bound to something else. -/
  | notAClass (name : String)
  /-- A module was opened under a name that is bound to something else. -/
  | notAModule (name : String)
  | superclassMismatch (name : String)
  /-- A measured read gave another value than it should. -/
  | unexpectedValue (expected actual : String)
  /-- An error made by the program, in its own words. -/
  | custom (kind : ErrorKind) (message : String)
deriving DecidableEq, Inhabited

namespace Cause

def kind : Cause → ErrorKind
  | .wrongName _ | .uninitialized .. => .name
  | .superclassNotClass _ | .notModule _ | .notAClass _ | .notAModule _
  | .superclassMismatch _ => .type
  | .cyclicInclude => .argument
  | .unexpectedValue .. => .internal
  | .custom kind _ => kind

def message : Cause → String
  | .wrongName name => "wrong constant name " ++ name
  | .uninitialized none name => "uninitialized constant " ++ name
  | .uninitialized (some scope) name => "uninitialized constant " ++ scope ++ "::" ++ name
  | .superclassNotClass path => "superclass must be a Class (" ++ path ++ " given)"
  | .notModule path => "wrong argument type " ++ path ++ " (expected Module)"
  | .cyclicInclude => "cyclic include detected"
  | .notAClass name => name ++ " is not a class"
  | .notAModule name => name ++ " is not a module"
  | .superclassMismatch name => "superclass mismatch for class " ++ name
  | .unexpectedValue expected actual => "expected " ++ expected ++ ", got " ++ actual
  | .custom _ message => message

end Cause

/-- A cause, and where it was met. -/
structure RaisedError where
  cause : Cause
  position : Option Position := none
deriving DecidableEq, Inhabited

namespace RaisedError

/-- Attaches a position, unless there is one already. -/
def located (e : RaisedError) (p : Position) : RaisedError :=
  { e with position := e.position <|> some p }

/-- Kind and message. -/
def text (e : RaisedError) : String := e.cause.kind.text ++ ": " ++ e.cause.message

end RaisedError

/-- What can be counted too far. -/
inductive Counter where
  /-- the generation of a namespace -/
  | generation
  /-- the row of lookups at a site -/
  | streak
  /-- the evaluations at the sites of a realm -/
  | evaluations
deriving DecidableEq, Inhabited

/-- A fault of the interpreter, after which its step has no result. -/
inductive Fault where
  /-- A counter stood at its greatest value. -/
  | overflow (counter : Counter)
  /-- A reference site was made for a text that names no constant. -/
  | invalidSiteName (name : String)
  /-- Missing-name handlers pass a name on in a circle. -/
  | endlessDispatch
deriving DecidableEq, Inhabited

def Fault.message : Fault → String
  | .overflow _ => "attempt to add with overflow"
  | .invalidSiteName name => "invalid constant name " ++ Text.quoted name
  | .endlessDispatch => "missing-name handlers pass a name on without end"

/-- Why a step has no result. -/
inductive Failure where
  | raised (error : RaisedError)
  | fault (fault : Fault)
  /-- The step speaks of a holder that holds nothing. -/
  | unbound (holder : String)
deriving DecidableEq, Inhabited

/-- A failure in words. -/
def Failure.text : Failure → String
  | .raised e => e.text
  | .fault f => f.message
  | .unbound holder => holder ++ " holds nothing"

end ConstantResolution
