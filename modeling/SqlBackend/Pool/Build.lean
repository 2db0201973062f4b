import SqlBackend.Pool.Config
import SqlBackend.Settings.Basic

/-!
# Building a pool configuration

A configuration is built from a dialect, settings and overrides. The credentials are put in last, so
no override can take their place.
-/

namespace SqlBackend

open SqlBackend.Numeric

namespace Dialect

/-- The port that the settings ask for, or the dialect's own. -/
def port (d : Dialect) (settings : LooseSettings) : Value :=
  if settings.port.truthy then settings.port
  else match d.defaultPort with
    | some port => .int port
    | none => .null

/-- The address of the server, without a database. The embedded engine has no server. -/
def rootUrl (d : Dialect) (settings : LooseSettings) : Except Fault String :=
  match d.engine, d.schemes with
  | some .sqlite, _ => .ok "sqlite:///"
  | _, [] => .error .noScheme
  | _, scheme :: _ => do
    let host ← settings.host.written
    let port ← (d.port settings).written
    return scheme ++ "://" ++ host ++ ":" ++ port ++ "/"

end Dialect

namespace Pool

def sizeRecord (size : Int) : Record :=
  { level := .debug, origin := .pool
    message := "Setting connection pool size to " ++ decimal size }

/-- The properties with the credentials of the settings. -/
def withCredentials (settings : LooseSettings) (properties : Table String Value) :
    Except Fault (Table String Value) := do
  let password ← settings.secret
  return (properties.put "user" settings.user).put "password" (.text password)

def buildConfig (d : Dialect) (settings : LooseSettings) (overrides : Table String Value) :
    Action PoolConfig := do
  let properties ← connectorProperties d overrides
  let properties ← withCredentials settings properties
  let size ← resolveSize ((properties.get? sizeProperty).getD .null) defaultSize
  Action.log (sizeRecord size)
  let url ← d.rootUrl settings
  let database ← Fault.wrongType.unlessSome settings.database.text?
  (PoolConfig.mk d.driver url (url ++ database) none d.supportsStatsCallback size
    <$> checkProperties properties <*> pure true).toExcept

end Pool

end SqlBackend
