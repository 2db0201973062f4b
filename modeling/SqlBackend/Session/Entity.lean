import SqlBackend.Dialect.Basic
import SqlBackend.Flush.Flusher
import SqlBackend.Settings.Source

/-!
# Entities of a session

A session knows dialects, settings, configurations and flushers by name. Copying does not copy what a
field holds: copies share the fields that were not replaced, and an open table of properties with
them. `Origins` tells which fields are shared. A described dialect carries the number of its
description, since two descriptions never make equal dialects, whatever they say.
-/

namespace SqlBackend

/-- What an operation shows of settings, a configuration or a dialect. -/
inductive Shown where
  | dialect (d : Dialect)
  | settings (settings : LooseSettings)
  | config (config : LooseConfig) (properties : List (String × Value)) (arguments : Arguments)

/-- A configuration as it is shown, with its properties as the driver gets them. -/
def LooseConfig.shown (config : LooseConfig) : Except Fault Shown :=
  match config.properties with
  | .mapping entries => do return .config config entries (← Pool.driverArguments entries)
  | _ => .error .missingAttribute

/-- The numbers of the steps in which fields got what they hold. A field without a number holds what
validation let through. -/
abbrev Origins := Table String Nat

namespace Origins

/-- The origins in which the named fields were replaced in one step. -/
def replace (origins : Origins) (changes : List (String × Value)) (step : Nat) : Origins :=
  changes.foldl (fun origins change => origins.put change.1 step) origins

/-- Whether two entities have what a field holds from the same step. -/
def shared (o p : Origins) (field : String) : Bool :=
  (o.get? field).any fun step => p.get? field == some step

/-- The origins of a new configuration, whose properties are a table of its own. -/
def ofConfig (step : Nat) : Origins := Table.empty.put "properties" step

end Origins

/-- Something that a session knows by name. -/
inductive Entity where
  | dialect (d : Dialect) (description : Nat)
  | settings (settings : LooseSettings) (origins : Origins)
  | config (config : LooseConfig) (origins : Origins)
  | flusher (flusher : Flusher)

namespace Entity

def asDialect : Entity → Except Fault Dialect
  | dialect d _ => .ok d
  | _ => .error .missingAttribute

def asSettings : Entity → Except Fault LooseSettings
  | settings s _ => .ok s
  | _ => .error .missingAttribute

def asConfig : Entity → Except Fault LooseConfig
  | config c _ => .ok c
  | _ => .error .missingAttribute

def asFlusher : Entity → Except Fault Flusher
  | flusher f => .ok f
  | _ => .error .missingAttribute

def shown : Entity → Except Fault Shown
  | dialect d _ => .ok (.dialect d)
  | settings s _ => .ok (.settings s)
  | config c _ => c.shown
  | flusher _ => .error .wrongType

/-- Equality of entities: engines' dialects by engine, described ones by description, settings and
configurations by their fields. -/
def same : Entity → Entity → Bool
  | dialect d n, dialect e m =>
    match d.engine, e.engine with
    | some a, some b => a == b
    | none, none => n == m
    | _, _ => false
  | settings s o, settings t p => s.same (o.shared p) t
  | config c o, config d p => c.same (o.shared p) d
  | _, _ => false

/-- The fields of a dialect that belong to all dialects of its kind together. -/
def kindFields : List String :=
  ["NAME", "DISPLAY_NAME", "SUPPORTED_SCHEMA", "ALIASES", "CAPABILITIES", "ERROR_CODES", "F",
   "DRIVER", "DEFAULT_PORT", "SUPPORTS_STATS_CALLBACK", "PROPERTY_PREFIX", "DEFAULT_PROPERTIES",
   "DATABASE_EXISTS_SQL", "FLUSH_STATEMENTS"]

/-- What comes of assigning to a field of a frozen record: it is refused, whether there is such a
field or not. Only a name with an underscore in front may be given any value, and says nothing about
the record. -/
def assignFrozen (field : String) : Except Fault Unit :=
  if field.toList.head? == some '_' then .ok () else .error (.frozenField field)

/-- What comes of assigning to a field. All entities but flushers are frozen, and what belongs to a
kind of dialects cannot be reached through one of them. -/
def assign (entity : Entity) (field : String) : Except Fault Unit :=
  match entity with
  | flusher _ => .ok ()
  | dialect _ _ =>
    if kindFields.contains field then .error .missingAttribute else assignFrozen field
  | _ => assignFrozen field

end Entity

end SqlBackend
