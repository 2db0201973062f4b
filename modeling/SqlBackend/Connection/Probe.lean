import SqlBackend.Action.Cleanup
import SqlBackend.Dialect.Basic

/-!
# Whether a database exists

The catalog is asked with the name as a parameter. The answer is in the first item of the row that
comes back. If the driver fails, the question is unanswered, and the fault says what kind of error it
was.
-/

namespace SqlBackend

open SqlBackend.Numeric

namespace Connection

def isPositive : Int ⊕ Binary64 → Bool
  | .inl i => 0 < i
  | .inr x => x.isPositive

/-- What a row says: nothing says no, and otherwise the first item is a count. -/
def countIsPositive (row : Value) : Except Fault Bool :=
  match row with
  | .list (first :: _) => (Fault.wrongType.unlessSome first.amount?).map isPositive
  | .mapping (_ :: _) => .error .missingEntry
  | _ => if row.truthy then .error .wrongType else .ok false

end Connection

namespace Dialect

open SqlBackend.Connection

def databaseExists (d : Dialect) (name : Value) : Action Bool := do
  let outcome ← Action.guarded <| Action.withCursor do
    Action.executeWith d.databaseExistsSql [name]
    Action.fetchRow
  match outcome with
  | .ok row => Action.ofExcept (countIsPositive row)
  | .error (.raised error) =>
    let kind ← d.classify (.raised error)
    Action.fail (.serviceFailure kind error)
  | .error fault => Action.fail fault

end Dialect

end SqlBackend
