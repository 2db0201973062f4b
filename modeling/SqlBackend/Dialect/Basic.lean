import SqlBackend.Capability
import SqlBackend.NativeCode
import SqlBackend.Sql.Fragment
import SqlBackend.Table

/-!
# Dialects

A `Dialect` gathers everything in which one backend differs from another: what it can do, its codes
for errors, the driver that connects to it, and statements for its upkeep. What an engine knows how
to do in code (fragments, connecting) goes by the dialect's `engine`; a dialect without an engine has
no fragments and connects by its address alone.

An error is classified by the code it carries: `classify` goes from the code to the kind,
`classifyMatches` from a kind to its code.
-/

namespace SqlBackend

/-- The description of a backend. -/
structure Dialect where
  kind : String
  engine : Option Engine := none
  name : String := ""
  displayName : String := ""
  schemes : List String := []
  aliases : List String := []
  capabilities : Table Capability Bool := .empty
  errorCodes : Table ErrorKind Code := .empty
  driver : String := ""
  defaultPort : Option Int := none
  supportsStatsCallback : Bool := false
  propertyPrefix : String := ""
  defaultProperties : Table String String := .empty
  databaseExistsSql : String := ""
  flushStatements : List String := []
  deriving Inhabited

namespace Dialect

/-- How messages call the backend: by its display name, or by its kind when it has none. -/
def title (d : Dialect) : String := if d.displayName.isEmpty then d.kind else d.displayName

/-- Whether the backend has a capability; one that is not listed it has not. -/
def supports (d : Dialect) (capability : Capability) : Bool :=
  (d.capabilities.get? capability).getD false

/-- The code of SQLite for a primary key that occurs twice. -/
def primaryKeyCode : Int := 1555

/-- The code of SQLite for a unique value that occurs twice. -/
def uniqueCode : Int := 2067

/-- A primary key is a unique value, so its code counts as that of one. -/
def foldPrimaryKey (code : Code) : Code :=
  if code = .number primaryKeyCode then .number uniqueCode else code

theorem foldPrimaryKey_ne (code : Code) : foldPrimaryKey code ≠ .number primaryKeyCode := by
  unfold foldPrimaryKey
  split
  · decide
  · assumption

/-- The code of an error as the dialect's table lists it. -/
def nativeCode (d : Dialect) (error : Value) : Except Fault (Option Code) :=
  match d.engine with
  | some .sqlite => (nativeErrorCode error).map (·.map foldPrimaryKey)
  | _ => nativeErrorCode error

/-- The first kind in the table whose code is `code`. -/
def kindOfCode? (d : Dialect) (code : Code) : Option ErrorKind :=
  (d.errorCodes.entries.find? fun entry => entry.2 = code).map Prod.fst

/-- The kind of an error, if the table lists its code. -/
def classify (d : Dialect) (error : Value) : Except Fault (Option ErrorKind) := do
  let code ← d.nativeCode error
  return code.bind d.kindOfCode?

/-- Whether an error carries the code of a kind. The error is not looked at when the kind has no
code. -/
def classifyMatches (d : Dialect) (error : Value) (kind : ErrorKind) : Except Fault Bool :=
  match d.errorCodes.get? kind with
  | none => .ok false
  | some code => do return (← d.nativeCode error) == some code

/-- The text of a fragment asked for by name. -/
def fragment (d : Dialect) (name : String) (args : List Value) : Except Fault Value :=
  match d.engine, Fragment.ofName? name with
  | some engine, some fragment => engine.fragment fragment args
  | _, _ => .error (.unknownFragment name)

/-- The name by which a builder of fragments knows its dialect; it is no fragment and cannot be
called. -/
def ownName : String := "_dialect"

/-- The text of a fragment asked for by a value, which must be the name of one. -/
def fragmentValue (d : Dialect) (name : Value) (args : List Value) : Except Fault Value :=
  match name with
  | .text name => if name = ownName then .error .wrongType else d.fragment name args
  | _ => .error .wrongType

/-- The fragments that the dialect has. -/
def fragments (d : Dialect) : List Fragment :=
  match d.engine with
  | some _ => Fragment.all
  | none => []

/-- A value that stands for a member of an enumeration: a text must be the name of one, anything
else is none, and what holds other values cannot be looked up at all. -/
def member? {α : Type} (ofName? : String → Option α) (unknown : String → Fault) :
    Value → Except Fault (Option α)
  | .text name => (unknown name).unlessSome (ofName? name) |>.map some
  | .list _ => .error .wrongType
  | .mapping _ => .error .wrongType
  | _ => .ok none

/-- Whether the backend has what a value names. -/
def supportsValue (d : Dialect) (capability : Value) : Except Fault Bool := do
  let capability ← member? Capability.ofName? .unknownCapability capability
  return capability.any d.supports

/-- Whether an error carries the code of the kind that a value names. -/
def classifyMatchesValue (d : Dialect) (error kind : Value) : Except Fault Bool := do
  match ← member? ErrorKind.ofName? .unknownErrorKind kind with
  | none => return false
  | some kind => d.classifyMatches error kind

end Dialect

end SqlBackend
