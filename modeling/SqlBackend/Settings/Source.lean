import SqlBackend.Settings.Basic
import SqlBackend.Table
import SqlBackend.Text.Lowercase

/-!
# Where settings come from

Each setting is taken from the arguments if they name it, else from the environment, else it has its
default. An argument names a setting in upper or lower case alike, and so does the environment, which
puts a prefix before the name. What else is in the environment does not matter, while an argument
that names no setting is refused.
-/

namespace SqlBackend

open SqlBackend.Text

inductive Setting where
  | backend
  | host
  | port
  | database
  | user
  | password
  | resultsStreaming
  | fallbackWait
  deriving DecidableEq, Repr, Inhabited

namespace Setting

def all : List Setting :=
  [.backend, .host, .port, .database, .user, .password, .resultsStreaming, .fallbackWait]

def name : Setting → String
  | .backend => "backend"
  | .host => "host"
  | .port => "port"
  | .database => "database"
  | .user => "user"
  | .password => "password"
  | .resultsStreaming => "results_streaming_enabled"
  | .fallbackWait => "flush_fallback_wait"

def ofName? (name : String) : Option Setting :=
  all.find? (·.name = name)

theorem ofName?_name (x : Setting) : ofName? x.name = some x := by
  cases x <;> decide

end Setting

/-- The variables of the environment and their values. -/
abbrev Environment := Table String String

namespace Environment

/-- What the names of the variables for settings begin with. -/
def settingPrefix : String := "dbdialect_"

/-- Sets a variable, or removes it. -/
def assign (env : Environment) (name : String) : Option String → Environment
  | some value => env.put name value
  | none => env.erase name

/-- The value that the environment gives a setting. Of two variables that differ in case only, the
later one counts. -/
def setting? (env : Environment) (setting : Setting) : Option String :=
  (env.entries.reverse.find? fun entry =>
    lower entry.1 = settingPrefix ++ setting.name).map Prod.snd

end Environment

namespace Settings

/-- The value that the arguments give a setting. Of two arguments that differ in case only, the
earlier one counts. -/
def argument? (arguments : List (String × Value)) (setting : Setting) : Option Value :=
  (arguments.find? fun argument => lower argument.1 = setting.name).map Prod.snd

/-- What the arguments or else the environment give a setting. -/
def given? (env : Environment) (arguments : List (String × Value)) (setting : Setting) :
    Option Value :=
  argument? arguments setting <|> (env.setting? setting).map .text

/-- A setting's value by its rule, or its default when nothing is given. -/
def checkSetting {α : Type} (given : Setting → Option Value) (setting : Setting) (default : α)
    (rule : Value → Except Problem α) : Checked α :=
  match given setting with
  | none => .valid default
  | some value => .ofField setting.name (rule value)

def check (given : Setting → Option Value) : Checked Settings :=
  let default : Settings := {}
  mk <$> checkSetting given .backend default.backend Field.text
    <*> checkSetting given .host default.host Field.text
    <*> checkSetting given .port default.port (Field.orNull Field.positive)
    <*> checkSetting given .database default.database Field.text
    <*> checkSetting given .user default.user Field.text
    <*> checkSetting given .password default.password Field.text
    <*> checkSetting given .resultsStreaming default.resultsStreaming Field.truth
    <*> checkSetting given .fallbackWait default.fallbackWait Field.seconds

/-- The complaints about arguments that name no setting. -/
def unknownArguments (arguments : List (String × Value)) : List Complaint :=
  (arguments.filter fun argument => (Setting.ofName? (lower argument.1)).isNone).map
    fun argument => ⟨[argument.1], .unknownField⟩

/-- Settings from arguments and environment. -/
def ofArguments (env : Environment) (arguments : List (String × Value)) : Except Fault Settings :=
  ((check (given? env arguments)).withComplaints (unknownArguments arguments)).toExcept

end Settings

namespace LooseSettings

/-- The settings with a field replaced, unchecked. -/
def replace (s : LooseSettings) (value : Value) : Setting → LooseSettings
  | .backend => { s with backend := value }
  | .host => { s with host := value }
  | .port => { s with port := value }
  | .database => { s with database := value }
  | .user => { s with user := value }
  | .password => { s with password := .plain value }
  | .resultsStreaming => { s with resultsStreaming := value }
  | .fallbackWait => { s with fallbackWait := value }

/-- The settings with the named fields replaced, unchecked; a name of no field changes nothing. -/
def update (s : LooseSettings) (changes : List (String × Value)) : LooseSettings :=
  changes.foldl (fun s change => ((Setting.ofName? change.1).map (s.replace change.2)).getD s) s

end LooseSettings

end SqlBackend
