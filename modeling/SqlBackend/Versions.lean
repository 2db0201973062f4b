import SqlBackend.Checked.Basic
import SqlBackend.Checked.Field

/-!
# Versions

The versions of schema, index and redo log, as rows for the table in which a database records them.
-/

namespace SqlBackend

/-- The versions that a database records about itself. -/
structure Versions where
  database : String
  index : String
  redoLog : String
  deriving DecidableEq, Repr

namespace Versions

/-- The versions that new databases get. -/
def current : Versions where
  database := "111"
  index := "2"
  redoLog := "1.50"

/-- Versions from fields; other names among them do not matter. -/
def ofFields (fields : List (String × Value)) : Except Fault Versions :=
  (mk <$> Checked.required fields "db_version" Field.text
    <*> Checked.required fields "index_version" Field.text
    <*> Checked.required fields "redolog_version" Field.text).toExcept

/-- A row: name, value and description. -/
structure Row where
  name : String
  value : String
  description : String
  deriving DecidableEq, Repr

def rows (v : Versions) : List Row :=
  [⟨"db.version", v.database, "db schema version"⟩,
   ⟨"index.version", v.index, "index version"⟩,
   ⟨"redolog.version", v.redoLog, "redolog version"⟩]

end Versions

end SqlBackend
