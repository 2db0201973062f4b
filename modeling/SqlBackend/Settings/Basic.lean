import SqlBackend.Checked.Basic
import SqlBackend.Checked.Field

/-!
# Settings

Where the database lives and who connects to it. `Settings` are what validation lets through:
the port is positive and the wait after an unconfirmed flush a finite span of time.
`LooseSettings` are a copy in which fields may have been replaced without validation; every operation
takes these, and validated settings are loose settings that nobody has touched.

Credentials come from settings only. A password is secret: only who asks for it in clear gets it, and
`masked` stands in its place elsewhere.
-/

namespace SqlBackend

open SqlBackend.Numeric

/-- The wait of three seconds. -/
def threeSeconds : Field.Seconds where
  amount := .finite false 0x18000000000000 (-51)
  isFinite := rfl
  not_negative := rfl

/-- Validated settings. -/
structure Settings where
  backend : String := "mysql"
  host : String := "localhost"
  port : Option { n : Nat // 0 < n } := none
  database : String := "store"
  user : String := "store"
  password : String := ""
  resultsStreaming : Bool := true
  fallbackWait : Field.Seconds := threeSeconds
  deriving Repr

/-- A password: secret, or put in its place without being made one. -/
inductive Password where
  | secret (s : String)
  | plain (value : Value)
  deriving Inhabited

/-- Settings whose fields may be anything. -/
structure LooseSettings where
  backend : Value
  host : Value
  port : Value
  database : Value
  user : Value
  password : Password
  resultsStreaming : Value
  fallbackWait : Value
  deriving Inhabited

/-- Validated settings as loose ones. -/
def Settings.loose (s : Settings) : LooseSettings where
  backend := .text s.backend
  host := .text s.host
  port := match s.port with
    | none => .null
    | some n => .int n
  database := .text s.database
  user := .text s.user
  password := .secret s.password
  resultsStreaming := .bool s.resultsStreaming
  fallbackWait := .float s.fallbackWait.amount

/-- What stands for a password where it is shown; that there is none is no secret. -/
def masked (password : String) : String := if password.isEmpty then "" else "**********"

namespace Password

/-- What a password is, in clear. -/
def clear : Password → Value
  | secret s => .text s
  | plain value => value

/-- What is shown in place of a password; only a secret one is masked. -/
def shown : Password → String
  | secret s => masked s
  | plain value => value.shown

/-- How a summary of settings shows a password. -/
def quoted : Password → String
  | secret s => "SecretStr(" ++ Text.quoted (masked s) ++ ")"
  | plain value => value.quoted

/-- Equality of passwords; a secret one equals none that is not. -/
def same : Password → Password → Bool
  | secret s, secret t => s == t
  | plain a, plain b => a.same b
  | _, _ => false

end Password

namespace LooseSettings

/-- The password to connect with; only a secret one will do. -/
def secret (s : LooseSettings) : Except Fault String :=
  match s.password with
  | .secret password => .ok password
  | .plain _ => .error .missingAttribute

/-- The settings on one line. -/
def summary (s : LooseSettings) : String :=
  "ServerSettings(backend=" ++ s.backend.quoted ++ ", host=" ++ s.host.quoted
    ++ ", port=" ++ s.port.quoted ++ ", database=" ++ s.database.quoted
    ++ ", user=" ++ s.user.quoted ++ ", password=" ++ s.password.quoted
    ++ ", results_streaming_enabled=" ++ s.resultsStreaming.quoted
    ++ ", flush_fallback_wait=" ++ s.fallbackWait.quoted ++ ")"

/-- Equality of settings, field by field. Fields that are shared are equal, whatever they hold. -/
def same (shared : String → Bool) (s t : LooseSettings) : Bool :=
  (shared "backend" || s.backend.same t.backend)
    && (shared "host" || s.host.same t.host)
    && (shared "port" || s.port.same t.port)
    && (shared "database" || s.database.same t.database)
    && (shared "user" || s.user.same t.user)
    && (shared "password" || s.password.same t.password)
    && (shared "results_streaming_enabled" || s.resultsStreaming.same t.resultsStreaming)
    && (shared "flush_fallback_wait" || s.fallbackWait.same t.fallbackWait)

end LooseSettings

end SqlBackend
