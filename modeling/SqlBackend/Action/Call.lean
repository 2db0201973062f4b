import SqlBackend.Engine
import SqlBackend.Fault

/-!
# What an operation does to the world

An operation on a backend calls its driver, and writes records to a log. `Call` is one call with all
that the driver gets to see of it, `Record` one record with the fault it carries, if any.
-/

namespace SqlBackend

/-- Named arguments of a call, in order. -/
abbrev Arguments := List (String × Value)

/-- What a connection is opened with. -/
inductive Target where
  /-- A connection that was not made from any configuration. -/
  | unnamed
  | mysql (arguments : Arguments)
  | oracle (arguments : Arguments)
  | sqlite (path : Option String) (arguments : Arguments)
  /-- A connection by its address alone. -/
  | address (url : Value)
  deriving Inhabited

/-- A call to a driver or to the clock. -/
inductive Call where
  /-- Asking for a maintenance connection, with the flush lock held or free. -/
  | request (locked : Bool)
  | connect (target : Target)
  | cursor
  /-- A cursor that leaves the rows on the server. -/
  | serverCursor
  | execute (statement : String)
  | executeWith (statement : String) (parameters : List Value)
  | fetchRow
  | closeCursor
  | commit
  | close
  /-- Setting a number on the cursor. -/
  | assign (name : String) (value : Nat)
  | sleep (seconds : Value)
  deriving Inhabited

namespace Call

/-- Whether the call runs a statement. -/
def isExecute : Call → Bool
  | execute _ => true
  | executeWith _ _ => true
  | _ => false

end Call

/-- How much a record matters. -/
inductive Level where
  | debug
  | info
  | warning
  deriving DecidableEq, Repr, Inhabited

/-- The part of the library that a record comes from. -/
inductive Origin where
  | pool
  | flush
  | backend (engine : Engine)
  deriving DecidableEq, Repr, Inhabited

structure Record where
  level : Level
  origin : Origin
  message : String
  cause : Option Fault := none
  deriving Inhabited

end SqlBackend
