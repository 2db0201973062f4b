/-!
# Engines

The database engines that statements are written for and connections are opened to. Everything in
which they differ is decided by cases on `Engine`, or stands in a table of a `Dialect`.
-/

namespace SqlBackend

/-- A database engine. -/
inductive Engine where
  | mysql
  | oracle
  | sqlite
  deriving DecidableEq, Repr, Inhabited

def Engine.all : List Engine := [.mysql, .oracle, .sqlite]

theorem Engine.mem_all (engine : Engine) : engine ∈ all := by
  cases engine <;> decide

end SqlBackend
