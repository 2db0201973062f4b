import SqlBackend.Proofs.Connection.Arguments
import SqlBackend.Proofs.Connection.Target

/-!
# What an address leads to

An address that can be read leads to a target unless a property has the name of what the address says.
The target is `Engine.targetOf` of the address, its port and the properties that the driver takes, for
each of the engines.
-/

namespace SqlBackend

open SqlBackend.Action SqlBackend.Pool SqlBackend.Connection

namespace Action

theorem liftM_ok {α : Type} (a : α) : (liftM (Except.ok a : Except Fault α) : Action α) = pure a := rfl

end Action

/-- What is made of arguments that are joined is made of one after the other. -/
theorem Connection.run_joinArguments (make : Arguments → Target) (own properties : Arguments)
    (script : Script) (world : World) :
    run (ofExcept (joinArguments own properties) >>= fun arguments => pure (make arguments)) script
        world = ((joinArguments own properties).map fun _ => make (own ++ properties), world) := by
  rw [run_bind, run_ofExcept, joinArguments]
  cases own.find? fun argument => properties.any fun property => property.1 == argument.1 with
  | some argument => rfl
  | none => rfl

namespace Engine

/-- The names under which a driver gets what the address says. -/
def addressNames : Engine → List String
  | .mysql => ["host", "port", "database"]
  | .oracle => ["dsn"]
  | .sqlite => ["database"]

/-- The port that an address has for the engine; a file has none, and is not asked for one. -/
def readPort : Engine → Address → Except Fault (Option Nat)
  | .sqlite, _ => .ok none
  | _, address => portOf address

/-- What an address says, under the names by which the driver asks for it. -/
def addressArguments (address : Address) (port : Option Nat) : Engine → Arguments
  | .mysql =>
      [("host", textOrNull address.host?),
        ("port", match port with | some n => .int n | none => .null),
        ("database", textOrNull (nonEmpty? address.pathTail))]
  | .oracle => [("dsn", .text (serviceName address port))]
  | .sqlite => [("database", textOrNull (filePath? address))]

/-- Whether the driver is handed a property of this name. -/
def takes : Engine → String → Bool
  | .sqlite, name => !isCredential name
  | _, _ => true

/-- What a connection is opened with, from an address and from the properties that the driver takes. -/
def targetOf (address : Address) (port : Option Nat) (properties : Arguments) : Engine → Target
  | .mysql => .mysql (addressArguments address port .mysql ++ properties)
  | .oracle => .oracle (addressArguments address port .oracle ++ properties)
  | .sqlite => .sqlite (filePath? address) properties

variable {engine : Engine} {address : Address} {port : Option Nat}

/-- A server is asked for the port of its address. -/
theorem readPort_of_server (hserver : engine ≠ .sqlite) (address : Address) :
    engine.readPort address = portOf address := by
  cases engine with
  | mysql | oracle => rfl
  | sqlite => exact absurd rfl hserver

theorem map_fst_addressArguments (engine : Engine) (address : Address) (port : Option Nat) :
    (engine.addressArguments address port).map Prod.fst = engine.addressNames := by
  cases engine <;> rfl

/-- The properties that the driver is handed. -/
def passed (engine : Engine) (config : PoolConfig) : Arguments :=
  config.arguments.filter fun argument => engine.takes argument.1

theorem passed_of_takes_all (h : ∀ name, engine.takes name = true) (config : PoolConfig) :
    engine.passed config = config.arguments :=
  List.filter_eq_self.mpr fun argument _ => h argument.1

section

variable {config : PoolConfig} {script : Script} (hdriver : script.driverMissing = false)
  (haddress : addressOf config.loose.connectionUrl = .ok address)
  (hport : engine.readPort address = .ok port)

include hdriver haddress hport

/-- An address that can be read leads to a target as long as no name is taken twice. -/
theorem target_of_address (world : World) :
    (run (engine.target config.loose) script world).1 =
      (joinArguments (engine.addressArguments address port) (engine.passed config)).map fun _ =>
        engine.targetOf address port (engine.passed config) := by
  have hinstalled := run_requireDriver_of_installed hdriver world
  have hlog (record : Record) := run_log_eq_extend record script world
  cases engine with
  | mysql =>
      have hport' : portOf address = .ok port := hport
      show (run (mysqlTarget config.loose) script world).1 = _
      rw [mysqlTarget, run_bind_of_ok hinstalled, haddress, liftM_ok, pure_bind,
        run_bind_of_ok (hlog _), hport', liftM_ok, pure_bind, config.driverArguments_loose, liftM_ok,
        pure_bind, passed_of_takes_all fun _ => rfl]
      exact congrArg Prod.fst (run_joinArguments Target.mysql _ _ _ _)
  | oracle =>
      have hport' : portOf address = .ok port := hport
      show (run (oracleTarget config.loose) script world).1 = _
      rw [oracleTarget, run_bind_of_ok hinstalled, haddress, liftM_ok, pure_bind, hport', liftM_ok,
        pure_bind, run_bind_of_ok (hlog _), config.driverArguments_loose, liftM_ok, pure_bind,
        passed_of_takes_all fun _ => rfl]
      exact congrArg Prod.fst (run_joinArguments Target.oracle _ _ _ _)
  | sqlite =>
      show (run (sqliteTarget config.loose) script world).1 = _
      rw [sqliteTarget, run_bind_of_ok hinstalled, haddress, liftM_ok, pure_bind,
        run_bind_of_ok (hlog _), config.driverArguments_loose, liftM_ok, pure_bind]
      exact congrArg Prod.fst (run_joinArguments (fun _ => Target.sqlite _ _) _ _ _ _)

/-- Free names lead to a target. -/
theorem target_of_free (hfree : ∀ name ∈ engine.addressNames, config.properties.get? name = none)
    (world : World) :
    (run (engine.target config.loose) script world).1 =
      .ok (engine.targetOf address port (engine.passed config)) := by
  have hdisjoint : ∀ argument ∈ engine.addressArguments address port,
      ∀ property ∈ engine.passed config, property.1 ≠ argument.1 := by
    intro argument hargument property hproperty hname
    have hmem : property.1 ∈ engine.addressNames := by
      rw [hname, ← engine.map_fst_addressArguments address port]
      exact List.mem_map_of_mem hargument
    exact config.not_mem_of_free hfree property (List.mem_filter.mp hproperty).1 hmem
  rw [target_of_address hdriver haddress hport, joinArguments_of_disjoint hdisjoint]
  rfl

end

end Engine

end SqlBackend
