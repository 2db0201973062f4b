/-!
# Kinds of failed statements

Backends number their errors each in its own way. `ErrorKind` names what went wrong independently of
the backend; `Code` is a backend's own number or word for it.
-/

namespace SqlBackend

/-- What went wrong with a statement, whatever the backend. -/
inductive ErrorKind where
  | deadlockDetected
  | duplicateRow
  | foreignKeyNoParent
  | foreignKeyChildExists
  | noSuchDatabase
  | noSuchTable
  | tableFull
  deriving DecidableEq, Repr, Inhabited

namespace ErrorKind

def all : List ErrorKind :=
  [.deadlockDetected, .duplicateRow, .foreignKeyNoParent, .foreignKeyChildExists,
   .noSuchDatabase, .noSuchTable, .tableFull]

/-- The name by which callers ask for it. -/
def name : ErrorKind → String
  | .deadlockDetected => "deadlock_detected"
  | .duplicateRow => "duplicate_row"
  | .foreignKeyNoParent => "foreign_key_no_parent"
  | .foreignKeyChildExists => "foreign_key_child_exists"
  | .noSuchDatabase => "no_such_database"
  | .noSuchTable => "no_such_table"
  | .tableFull => "table_full"

def ofName? (name : String) : Option ErrorKind :=
  all.find? (·.name = name)

end ErrorKind

/-- A backend's own code for an error: a number, or a word such as an SQL state. -/
inductive Code where
  | number (n : Int)
  | word (s : String)
  deriving DecidableEq, Repr, Inhabited

end SqlBackend
