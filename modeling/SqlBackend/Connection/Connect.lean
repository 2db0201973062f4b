import SqlBackend.Action.Basic
import SqlBackend.Address.Basic
import SqlBackend.Dialect.Basic
import SqlBackend.Pool.Config
import SqlBackend.Settings.Basic

/-!
# Opening connections

A connection is opened from a pool configuration. Its address is taken apart again into what the
engine's driver wants: host, port and database for MySQL, one name for the service for Oracle, a path
for SQLite. The properties go along as they are coerced; one that has the name of what the address
gives is refused before the driver is called.
-/

namespace SqlBackend

open SqlBackend.Numeric

namespace Connection

/-- The address that a configuration holds; nothing at all counts as the empty address. -/
def addressOf (url : Value) : Except Fault Address :=
  match url with
  | .text s => (Address.ofText? s).mapError .badAddress
  | _ => if url.truthy then .error .missingAttribute else .ok ⟨[], [], []⟩

/-- The database as the record of an attempt calls it; what is read from no text is no text either,
and an empty path is written as an empty string of bytes then. -/
def recordedDatabase (url : Value) (address : Address) : String :=
  match url with
  | .text _ => address.pathTail
  | _ => "b''"

def portOf (address : Address) : Except Fault (Option Nat) :=
  address.port?.mapError .badAddress

/-- A text, or null where there is none. -/
def textOrNull : Option String → Value
  | some s => .text s
  | none => .null

/-- A text, or none in place of the empty one. -/
def nonEmpty? (s : String) : Option String := if s.isEmpty then none else some s

/-- The arguments that the address gives, followed by the properties. -/
def joinArguments (own properties : Arguments) : Except Fault Arguments :=
  match own.find? fun entry => properties.any (·.1 == entry.1) with
  | some entry => .error (.repeatedArgument entry.1)
  | none => .ok (own ++ properties)

def attemptRecord (engine : Engine) (message : String) : Record :=
  { level := .debug, origin := .backend engine, message := message }

/-- What a connection to MySQL is opened with. -/
def mysqlTarget (config : LooseConfig) : Action Target := do
  Action.requireDriver
  let address ← addressOf config.connectionUrl
  let host := textOrNull address.host?
  Action.log (attemptRecord .mysql
    ("Connecting to MySQL database " ++ recordedDatabase config.connectionUrl address ++ " on "
      ++ host.shown))
  let port ← portOf address
  let own : Arguments :=
    [("host", host), ("port", match port with | some n => .int n | none => .null),
     ("database", textOrNull (nonEmpty? address.pathTail))]
  let properties ← config.driverArguments
  let arguments ← joinArguments own properties
  return .mysql arguments

/-- The port of Oracle's listener. -/
def oraclePort : Nat := 1521

/-- The name of an Oracle service with its server; the port zero counts as none. -/
def serviceName (address : Address) (port : Option Nat) : String :=
  let port := match port with
    | some (n + 1) => n + 1
    | _ => oraclePort
  (textOrNull address.host?).shown ++ ":" ++ port.repr ++ "/" ++ address.pathName

/-- What a connection to Oracle is opened with. -/
def oracleTarget (config : LooseConfig) : Action Target := do
  Action.requireDriver
  let address ← addressOf config.connectionUrl
  let port ← portOf address
  let service := serviceName address port
  Action.log (attemptRecord .oracle ("Connecting to Oracle service " ++ service))
  let properties ← config.driverArguments
  let arguments ← joinArguments [("dsn", .text service)] properties
  return .oracle arguments

/-- The path of a database file. -/
def filePath? (address : Address) : Option String :=
  nonEmpty? address.pathTail <|> address.host?

/-- What a database file is opened with; SQLite knows no credentials. -/
def sqliteTarget (config : LooseConfig) : Action Target := do
  Action.requireDriver
  let address ← addressOf config.connectionUrl
  let path := filePath? address
  Action.log (attemptRecord .sqlite ("Connecting to SQLite database " ++ (textOrNull path).shown))
  let properties ← config.driverArguments
  let options := properties.filter fun entry => !Pool.isCredential entry.1
  let _ ← joinArguments [("database", textOrNull path)] options
  return .sqlite path options

end Connection

namespace Engine

open SqlBackend.Connection

/-- What a connection to an engine is opened with. -/
def target : Engine → LooseConfig → Action Target
  | .mysql => mysqlTarget
  | .oracle => oracleTarget
  | .sqlite => sqliteTarget

/-- What is done first with a new connection: SQLite is told to check foreign keys. -/
def greet : Engine → Action Unit
  | .sqlite => Action.execute "PRAGMA foreign_keys = ON"
  | _ => pure ()

/-- Opens a connection and greets it. -/
def opening (engine : Engine) (target : Target) : Action Unit := do
  Action.connect target
  engine.greet

end Engine

namespace Dialect

def connect (d : Dialect) (config : LooseConfig) : Action Unit :=
  match d.engine with
  | some engine => do engine.opening (← engine.target config)
  | none => Action.connect (.address config.connectionUrl)

/-- The number of rows that Oracle fetches at a time when rows are streamed. -/
def streamingRows : Nat := 1000

/-- Obtains a cursor for large results: one that streams, if the settings say so and the engine can. -/
def streamingCursor (d : Dialect) (settings : LooseSettings) : Action Unit := do
  match d.engine with
  | some .mysql =>
    if settings.resultsStreaming.truthy then
      Action.requireDriver
      Action.serverCursor
    else Action.cursor
  | some .oracle =>
    Action.cursor
    if settings.resultsStreaming.truthy then
      Action.assign "arraysize" streamingRows
      Action.assign "prefetchrows" streamingRows
  | _ => Action.cursor

end Dialect

end SqlBackend
