import SqlBackend.Connection.Probe
import SqlBackend.Dialect.Description
import SqlBackend.Dialect.Registry
import SqlBackend.Session.Entity

/-!
# Sessions

A session is a row of commands that make entities, give them names, and use them. A command that
fails leaves the session as it was. The environment lasts until the end of the session, and so does
every entity until its name is given to another.
-/

namespace SqlBackend

/-- How a dialect is asked for. -/
inductive DialectSource where
  | scheme (given : Value)
  | description (description : DialectDescription)

def DialectSource.dialect : DialectSource → Except Fault Dialect
  | scheme given => Dialect.ofGivenScheme given
  | description d => d.dialect

/-- What a session knows. -/
structure Session where
  entities : Table String Entity := .empty
  environment : Environment := .empty
  /-- The number of the next step that makes an entity. -/
  next : Nat := 0

/-- A step of a session. -/
inductive Command where
  | environment (changes : List (String × Option String))
  | dialect (name : String) (source : DialectSource)
  | settings (name : String) (arguments : List (String × Value))
  | copy (name source : String) (changes : List (String × Value))
  | config (name dialect settings : String) (overrides : Table String Value)
  | model (name : String) (fields : List (String × Value))
  | flusherOfSettings (name dialect settings : String) (overrides : Table String Value)
  | flusherOfWait (name dialect : String) (wait : Value)
  | view (name : String)
  | assign (name field : String)
  | putProperty (name key : String) (value : Value)
  | changeArgument (name key : String) (value : Value)
  | equal (a b : String)
  | connect (dialect config : String)
  | streamingCursor (dialect settings : String)
  | databaseExists (dialect : String) (name : Value)
  | classify (dialect : String) (error : Value)
  | rootUrl (dialect settings : String)
  | flush (name : String)

/-- What a command answers. -/
inductive Answer where
  | nothing
  | text (s : String)
  | truth (b : Bool)
  | kind (kind : Option ErrorKind)
  | shown (shown : Shown)
  | arguments (arguments : Arguments)
  | equality (equal identical : Bool)
  | connected
  | cursor
  | flushed (locked : Bool)

namespace Session

/-- The entity of a name. -/
def find (s : Session) (name : String) : Except Fault Entity :=
  (Fault.noSuchObject name).unlessSome (s.entities.get? name)

def findDialect (s : Session) (name : String) : Except Fault Dialect := do
  (← s.find name).asDialect

def findSettings (s : Session) (name : String) : Except Fault LooseSettings := do
  (← s.find name).asSettings

def findConfig (s : Session) (name : String) : Except Fault LooseConfig := do
  (← s.find name).asConfig

/-- The session with an entity under a name. -/
def define (s : Session) (name : String) (entity : Entity) : Session :=
  { s with entities := s.entities.put name entity, next := s.next + 1 }

/-- A copy of an entity with fields replaced, unchecked. It shares the fields that were not
replaced with the one it was copied from. -/
def copyOf (s : Session) (changes : List (String × Value)) : Entity → Except Fault Entity
  | .dialect d n => .ok (.dialect d n)
  | .settings settings origins =>
    .ok (.settings (settings.update changes) (origins.replace changes s.next))
  | .config config origins =>
    .ok (.config (config.update changes) (origins.replace changes s.next))
  | .flusher _ => .error .missingAttribute

/-- Puts an entry into the properties of a configuration, and of all that share them. -/
def putProperty (s : Session) (name key : String) (value : Value) : Except Fault Session := do
  match ← s.find name with
  | .config config origins =>
    let changed ← config.putProperty key value
    return { s with
      entities := s.entities.mapValues fun _ entity =>
        match entity with
        | .config other others =>
          .config
            (if origins.shared others "properties" then
              { other with properties := changed.properties }
            else other)
            others
        | entity => entity }
  | _ => throw .missingAttribute

/-- Carries a command out; it ends with its answer and the session after it. -/
def carryOut (s : Session) : Command → Action (Answer × Session)
  | .environment changes =>
    return (.nothing, { s with
      environment := changes.foldl (fun env change => env.assign change.1 change.2)
        s.environment })
  | .dialect name source => do
    let d ← source.dialect
    return (.text d.title, s.define name (.dialect d s.next))
  | .settings name arguments => do
    let settings ← Settings.ofArguments s.environment arguments
    return (.nothing, s.define name (.settings settings.loose .empty))
  | .copy name source changes => do
    let entity ← s.copyOf changes (← s.find source)
    return (.nothing, s.define name entity)
  | .config name dialect settings overrides => do
    let config ← Pool.buildConfig (← s.findDialect dialect) (← s.findSettings settings) overrides
    return (.nothing, s.define name (.config config.loose (.ofConfig s.next)))
  | .model name fields => do
    let config ← PoolConfig.ofFields fields
    return (.nothing, s.define name (.config config.loose (.ofConfig s.next)))
  | .flusherOfSettings name dialect settings overrides => do
    let flusher ← Flusher.ofSettings (← s.findDialect dialect) (← s.findSettings settings) overrides
    return (.nothing, s.define name (.flusher flusher))
  | .flusherOfWait name dialect wait => do
    let flusher ← Flusher.ofWait (← s.findDialect dialect) wait
    return (.nothing, s.define name (.flusher flusher))
  | .view name => do
    return (.shown (← (← s.find name).shown), s)
  | .assign name field => do
    (← s.find name).assign field
    return (.nothing, s)
  | .putProperty name key value => do
    return (.nothing, ← s.putProperty name key value)
  | .changeArgument name _ _ => do
    return (.arguments (← (← s.findConfig name).driverArguments), s)
  | .equal a b => do
    let first ← s.find a
    let second ← s.find b
    return (.equality (a == b || first.same second) (a == b), s)
  | .connect dialect config => do
    (← s.findDialect dialect).connect (← s.findConfig config)
    return (.connected, s)
  | .streamingCursor dialect settings => do
    (← s.findDialect dialect).streamingCursor (← s.findSettings settings)
    return (.cursor, s)
  | .databaseExists dialect name => do
    return (.truth (← (← s.findDialect dialect).databaseExists name), s)
  | .classify dialect error => do
    return (.kind (← (← s.findDialect dialect).classify error), s)
  | .rootUrl dialect settings => do
    return (.text (← (← s.findDialect dialect).rootUrl (← s.findSettings settings)), s)
  | .flush name => do
    (← (← s.find name).asFlusher).flush
    return (.flushed (← Action.world).locked, s)

/-- The outcome of a command, what it did, and the session after it. -/
def step (s : Session) (command : Command) (script : Script) :
    Except Fault Answer × World × Session :=
  match (s.carryOut command).run script {} with
  | (.ok (answer, s), world) => (.ok answer, world, s)
  | (.error fault, world) => (.error fault, world, s)

/-- A command that fails leaves the session as it was. -/
theorem step_of_error {s : Session} {command : Command} {script : Script} {fault : Fault}
    {world : World} (h : (s.carryOut command).run script {} = (.error fault, world)) :
    s.step command script = (.error fault, world, s) := by
  simp [step, h]

/-- The outcomes of commands, one after the other, each with its own script. -/
def runAll : Session → List (Command × Script) → List (Except Fault Answer × World)
  | _, [] => []
  | s, (command, script) :: rest =>
    match s.step command script with
    | (outcome, world, s) => (outcome, world) :: runAll s rest

end Session

end SqlBackend
