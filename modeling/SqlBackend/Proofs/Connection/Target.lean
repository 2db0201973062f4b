import SqlBackend.Connection.Connect
import SqlBackend.Proofs.Action.Answer

/-!
# Where a connection is opened to

Opening a connection has three steps. `Engine.target` works out from the configuration what the
connection is opened with; this writes a record and may refuse, but makes no call. Then the driver is
called, and what it hands back is greeted: SQLite runs a statement on it, the other engines do nothing
more. So a configuration decides about the calls of opening a connection by its target only.
-/

namespace SqlBackend

namespace Connection

open SqlBackend.Action

theorem silent_mysqlTarget (config : LooseConfig) : Silent (mysqlTarget config) := by
  refine silent_requireDriver.bind fun _ => ?_
  refine (silent_ofExcept (addressOf config.connectionUrl)).bind fun address => ?_
  refine (silent_log _).bind fun _ => ?_
  refine (silent_ofExcept (portOf address)).bind fun port => ?_
  refine (silent_ofExcept config.driverArguments).bind fun properties => ?_
  exact (silent_ofExcept (joinArguments _ properties)).bind fun _ => silent_pure _

theorem silent_oracleTarget (config : LooseConfig) : Silent (oracleTarget config) := by
  refine silent_requireDriver.bind fun _ => ?_
  refine (silent_ofExcept (addressOf config.connectionUrl)).bind fun address => ?_
  refine (silent_ofExcept (portOf address)).bind fun port => ?_
  refine (silent_log _).bind fun _ => ?_
  refine (silent_ofExcept config.driverArguments).bind fun properties => ?_
  exact (silent_ofExcept (joinArguments _ properties)).bind fun _ => silent_pure _

theorem silent_sqliteTarget (config : LooseConfig) : Silent (sqliteTarget config) := by
  refine silent_requireDriver.bind fun _ => ?_
  refine (silent_ofExcept (addressOf config.connectionUrl)).bind fun address => ?_
  refine (silent_log _).bind fun _ => ?_
  refine (silent_ofExcept config.driverArguments).bind fun properties => ?_
  exact (silent_ofExcept (joinArguments _ _)).bind fun _ => silent_pure _

end Connection

namespace Engine

open SqlBackend.Action SqlBackend.Connection

/-- The calls of greeting a new connection. -/
def greetingCalls : Engine → List Call
  | .sqlite => [.execute "PRAGMA foreign_keys = ON"]
  | _ => []

/-- The error that greeting a new connection ends with. -/
def greetingError (engine : Engine) (script : Script) (world : World) : Option DriverError :=
  match engine with
  | .sqlite => nextFailure script world
  | _ => none

/-- Calls that run no statement leave the answer to the greeting as it is. -/
theorem greetingError_extend (engine : Engine) (script : Script) (world : World)
    {made : List Call} (h : made.countP Call.isExecute = 0) (records : List Record) :
    engine.greetingError script (world.extend made records) =
      engine.greetingError script world := by
  cases engine with
  | sqlite => exact nextFailure_extend script world h records
  | mysql | oracle => rfl

theorem silent_target (engine : Engine) (config : LooseConfig) :
    Silent (engine.target config) := by
  cases engine with
  | mysql => exact silent_mysqlTarget config
  | oracle => exact silent_oracleTarget config
  | sqlite => exact silent_sqliteTarget config

theorem run_greet (engine : Engine) (script : Script) (world : World) :
    run engine.greet script world =
      (endingWith (engine.greetingError script world), world.extend engine.greetingCalls []) := by
  cases engine with
  | sqlite => exact run_execute _ script world
  | mysql | oracle =>
      show (Except.ok (), world) = (_, world.extend [] [])
      rw [World.extend_nil]
      rfl

end Engine

namespace Dialect

/-- A connection is opened with its target and then greeted. -/
theorem connect_eq {d : Dialect} {engine : Engine} (h : d.engine = some engine)
    (config : LooseConfig) : d.connect config = engine.target config >>= engine.opening := by
  rw [connect, h]

end Dialect

end SqlBackend
