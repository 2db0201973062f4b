import SqlBackend.Connection.Connect
import SqlBackend.Proofs.Action.Answer

/-!
# Connections follow their driver

Opening a connection ends as the last failure among its calls demands. It may also refuse by itself:
an address that cannot be taken apart, or an argument given twice, is no failure of the driver. None
of these refusals is an interrupt.
-/

namespace SqlBackend

open SqlBackend.Action

namespace Connection

theorem ordinary_of_addressOf {url : Value} {fault : Fault} (h : addressOf url = .error fault) :
    Ordinary fault := by
  unfold addressOf at h
  split at h
  · next s =>
      cases haddress : Address.ofText? s with
      | ok address =>
          rw [haddress] at h
          cases h
      | error error =>
          rw [haddress] at h
          cases h
          rfl
  · split at h
    · cases h
      rfl
    · cases h

theorem ordinary_of_portOf {address : Address} {fault : Fault}
    (h : portOf address = .error fault) : Ordinary fault := by
  unfold portOf at h
  cases hport : address.port? with
  | ok port =>
      rw [hport] at h
      cases h
  | error error =>
      rw [hport] at h
      cases h
      rfl

theorem ordinary_of_joinArguments {own properties : Arguments} {fault : Fault}
    (h : joinArguments own properties = .error fault) : Ordinary fault := by
  unfold joinArguments at h
  split at h
  · cases h
    rfl
  · cases h

theorem ordinary_of_driverValue {name : String} {value : Value} {fault : Fault}
    (h : Pool.driverValue name value = .error fault) : Ordinary fault := by
  unfold Pool.driverValue at h
  split at h
  · cases h
  · split at h
    · cases h
    · cases h
      rfl

theorem ordinary_of_poolArguments {properties : List (String × Value)} {fault : Fault}
    (h : Pool.driverArguments properties = .error fault) : Ordinary fault := by
  induction properties with
  | nil => cases h
  | cons entry rest ih =>
      obtain ⟨name, value⟩ := entry
      rw [Pool.driverArguments] at h
      split at h
      · exact ih h
      · cases hvalue : Pool.driverValue name value with
        | error other =>
            rw [hvalue] at h
            cases h
            exact ordinary_of_driverValue hvalue
        | ok v =>
            cases hrest : Pool.driverArguments rest with
            | error other =>
                rw [hvalue, hrest] at h
                cases h
                exact ih hrest
            | ok arguments =>
                rw [hvalue, hrest] at h
                cases h

theorem ordinary_of_driverArguments {config : LooseConfig} {fault : Fault}
    (h : config.driverArguments = .error fault) : Ordinary fault := by
  unfold LooseConfig.driverArguments at h
  split at h
  · exact ordinary_of_poolArguments h
  · cases h
    rfl

theorem follows_addressOf (url : Value) : Follows Ordinary (ofExcept (addressOf url)) :=
  follows_ofExcept fun _ h => ordinary_of_addressOf h

theorem follows_portOf (address : Address) : Follows Ordinary (ofExcept (portOf address)) :=
  follows_ofExcept fun _ h => ordinary_of_portOf h

theorem follows_joinArguments (own properties : Arguments) :
    Follows Ordinary (ofExcept (joinArguments own properties)) :=
  follows_ofExcept fun _ h => ordinary_of_joinArguments h

theorem follows_driverArguments (config : LooseConfig) :
    Follows Ordinary (ofExcept config.driverArguments) :=
  follows_ofExcept fun _ h => ordinary_of_driverArguments h

theorem follows_mysqlTarget (config : LooseConfig) : Follows Ordinary (mysqlTarget config) := by
  refine follows_requireDriver.bind fun _ => ?_
  refine (follows_addressOf config.connectionUrl).bind fun address => ?_
  refine (follows_log _).bind fun _ => ?_
  refine (follows_portOf address).bind fun port => ?_
  refine (follows_driverArguments config).bind fun properties => ?_
  exact (follows_joinArguments _ properties).bind fun arguments => follows_pure _

theorem follows_oracleTarget (config : LooseConfig) : Follows Ordinary (oracleTarget config) := by
  refine follows_requireDriver.bind fun _ => ?_
  refine (follows_addressOf config.connectionUrl).bind fun address => ?_
  refine (follows_portOf address).bind fun port => ?_
  refine (follows_log _).bind fun _ => ?_
  refine (follows_driverArguments config).bind fun properties => ?_
  exact (follows_joinArguments _ properties).bind fun arguments => follows_pure _

theorem follows_sqliteTarget (config : LooseConfig) : Follows Ordinary (sqliteTarget config) := by
  refine follows_requireDriver.bind fun _ => ?_
  refine (follows_addressOf config.connectionUrl).bind fun address => ?_
  refine (follows_log _).bind fun _ => ?_
  refine (follows_driverArguments config).bind fun properties => ?_
  exact (follows_joinArguments _ _).bind fun _ => follows_pure _

end Connection

namespace Engine

open SqlBackend.Connection

theorem follows_target (engine : Engine) (config : LooseConfig) :
    Follows Ordinary (engine.target config) := by
  cases engine with
  | mysql => exact follows_mysqlTarget config
  | oracle => exact follows_oracleTarget config
  | sqlite => exact follows_sqliteTarget config

/-- The statement that follows the opening may fail as well. -/
theorem follows_opening {refusal : Fault → Prop} (engine : Engine) (target : Target) :
    Follows refusal (engine.opening target) := by
  refine (follows_connect target).bind fun _ => ?_
  cases engine with
  | sqlite => exact follows_execute _
  | mysql | oracle => exact follows_pure _

end Engine

end SqlBackend
