import SqlBackend.Checked.Basic
import SqlBackend.Checked.Field
import SqlBackend.Pool.Properties
import SqlBackend.Pool.Size

/-!
# Pool configurations

All that a pool needs to open connections to one database. `PoolConfig` is what validation lets
through, `LooseConfig` a copy in which fields may have been replaced without validation.

The fields of a configuration cannot be assigned to. Properties that were given, or built, are sealed
as well; the empty table that stands in for properties that were not given is open, and entries can
be put into it.
-/

namespace SqlBackend

/-- A validated configuration of a pool. -/
structure PoolConfig where
  driver : String
  rootUrl : String
  connectionUrl : String
  loggerUrl : Option String := none
  supportsStatsCallback : Bool := false
  poolSize : Int := Pool.defaultSize
  properties : Table String String := .empty
  propertiesSealed : Bool := true

/-- A configuration whose fields may be anything. -/
structure LooseConfig where
  driver : Value
  rootUrl : Value
  connectionUrl : Value
  loggerUrl : Value
  supportsStatsCallback : Value
  poolSize : Value
  properties : Value
  propertiesSealed : Bool
  deriving Inhabited

/-- A validated configuration as a loose one. -/
def PoolConfig.loose (c : PoolConfig) : LooseConfig where
  driver := .text c.driver
  rootUrl := .text c.rootUrl
  connectionUrl := .text c.connectionUrl
  loggerUrl := match c.loggerUrl with
    | none => .null
    | some url => .text url
  supportsStatsCallback := .bool c.supportsStatsCallback
  poolSize := .int c.poolSize
  properties := .mapping (c.properties.entries.map fun entry => (entry.1, .text entry.2))
  propertiesSealed := c.propertiesSealed

namespace Pool

/-- The complaints about properties that are no texts. -/
def propertyComplaints (properties : Table String Value) : List Complaint :=
  properties.entries.filterMap fun entry =>
    match entry.2 with
    | .text _ => none
    | _ => some ⟨["properties", entry.1], .notText⟩

/-- Properties that are texts, all of them. -/
def checkProperties (properties : Table String Value) : Checked (Table String String) :=
  match propertyComplaints properties with
  | [] => .valid (properties.mapValues fun _ value => value.shown)
  | complaints => .invalid complaints

/-- A field that may hold properties. -/
def checkPropertyField : Value → Checked (Table String String)
  | .mapping entries => checkProperties (.ofPairs entries)
  | _ => .invalid [⟨["properties"], .notMapping⟩]

/-- A property as the driver gets it. -/
def driverValue (name : String) (value : Value) : Except Fault Value :=
  if isCredential name then .ok value
  else match value with
    | .text s => .ok (coerce s)
    | _ => .error .missingAttribute

/-- The properties as arguments for the driver; what concerns the pool only is left out. -/
def driverArguments : List (String × Value) → Except Fault Arguments
  | [] => .ok []
  | (name, value) :: rest => do
    if name = sizeProperty then driverArguments rest
    else
      let value ← driverValue name value
      return (name, value) :: (← driverArguments rest)

end Pool

namespace PoolConfig

/-- A configuration from its fields; other names among them do not matter. -/
def ofFields (fields : List (String × Value)) : Except Fault PoolConfig :=
  (mk <$> Checked.required fields "driver" Field.text
    <*> Checked.required fields "root_url" Field.text
    <*> Checked.required fields "connection_url" Field.text
    <*> Checked.optional fields "logger_url" none (Field.orNull Field.text)
    <*> Checked.optional fields "supports_stats_callback" false Field.truth
    <*> Checked.optional fields "pool_size" Pool.defaultSize Field.integer
    <*> (match fields.lookup "properties" with
      | none => .valid .empty
      | some value => Pool.checkPropertyField value)
    <*> .valid (fields.lookup "properties").isSome).toExcept

end PoolConfig

namespace LooseConfig

/-- The properties as arguments for the driver. -/
def driverArguments (c : LooseConfig) : Except Fault Arguments :=
  match c.properties with
  | .mapping entries => Pool.driverArguments entries
  | _ => .error .missingAttribute

/-- The configuration with a field replaced, unchecked; a name of no field changes nothing.
Properties put in this way are not sealed. -/
def replace (c : LooseConfig) (name : String) (value : Value) : LooseConfig :=
  match name with
  | "driver" => { c with driver := value }
  | "root_url" => { c with rootUrl := value }
  | "connection_url" => { c with connectionUrl := value }
  | "logger_url" => { c with loggerUrl := value }
  | "supports_stats_callback" => { c with supportsStatsCallback := value }
  | "pool_size" => { c with poolSize := value }
  | "properties" => { c with properties := value, propertiesSealed := false }
  | _ => c

/-- The configuration with the named fields replaced, unchecked. -/
def update (c : LooseConfig) (changes : List (String × Value)) : LooseConfig :=
  changes.foldl (fun c change => c.replace change.1 change.2) c

/-- Puts an entry into the properties, if they are an open table. -/
def putProperty (c : LooseConfig) (name : String) (value : Value) : Except Fault LooseConfig :=
  match c.properties with
  | .mapping entries =>
    if c.propertiesSealed then .error .wrongType
    else .ok { c with properties := .mapping (Table.putEntry name value entries) }
  | _ => .error .wrongType

/-- Equality of configurations, field by field. Fields that are shared are equal, whatever they hold;
whether the properties are sealed does not matter. -/
def same (shared : String → Bool) (c d : LooseConfig) : Bool :=
  (shared "driver" || c.driver.same d.driver)
    && (shared "root_url" || c.rootUrl.same d.rootUrl)
    && (shared "connection_url" || c.connectionUrl.same d.connectionUrl)
    && (shared "logger_url" || c.loggerUrl.same d.loggerUrl)
    && (shared "supports_stats_callback" || c.supportsStatsCallback.same d.supportsStatsCallback)
    && (shared "pool_size" || c.poolSize.same d.poolSize)
    && (shared "properties" || c.properties.same d.properties)

end LooseConfig

end SqlBackend
