import SqlBackend.Action.Cleanup
import SqlBackend.Connection.Connect
import SqlBackend.Flush.Wait
import SqlBackend.Pool.Build

/-!
# Flushing the log to disk

A `Flusher` asks a backend to write its buffered log to durable storage. It opens a connection of its
own, runs the dialect's statements, commits, and closes the connection, however the statements ended.
If any of this but the closing failed, the flush is unconfirmed, and the flusher waits instead, which
gives the backend time to write its log by itself. Nothing makes a flush end with a fault but an
interrupt, or a clock that refuses the wait. One flush runs at a time: a lock is held meanwhile.
-/

namespace SqlBackend

/-- Where a flusher has its connections from. -/
inductive ConnectionSource where
  /-- Somebody who is asked for one. -/
  | supplied
  /-- The dialect, by a pool configuration. -/
  | configured (config : PoolConfig)

/-- All that a flush needs. -/
structure Flusher where
  dialect : Dialect
  source : ConnectionSource
  wait : Flush.Wait

namespace Flush

/-- The wait when no other is asked for. -/
def defaultWait : Value := .float threeSeconds.amount

def flushRecord (level : Level) (message : String) (cause : Option Fault) : Record :=
  { level := level, origin := .flush, message := message, cause := cause }

def confirmedRecord (title : String) : Record :=
  flushRecord .debug (title ++ " flushed its log to disk") none

/-- The record of what kept a flush from being confirmed. -/
def failureRecord (title : String) (cause : Fault) : Record :=
  flushRecord .warning ("ignoring error while forcing " ++ title ++ " to flush its log to disk") cause

def waitRecord (title : String) (wait : Wait) : Record :=
  flushRecord .info
    ("waiting " ++ wait.text ++ "s for " ++ title ++ " to flush its log on its own") none

/-- The record of a connection that could not be closed. -/
def closingRecord (cause : Fault) : Record :=
  flushRecord .debug "error closing maintenance connection" cause

/-- Closes the connection; a failure is recorded and does not matter otherwise. -/
def closeQuietly : Action Unit := do
  match ← Action.guarded Action.close with
  | .ok () => return ()
  | .error fault => Action.log (closingRecord fault)

def executeAll : List String → Action Unit
  | [] => return ()
  | statement :: rest => do
    Action.execute statement
    executeAll rest

/-- Runs the statements on an open connection, which is committed and closed afterwards. -/
def flushThrough (statements : List String) : Action Unit :=
  (Action.withCursor (executeAll statements)).thenAlways (Action.commit.thenAlways closeQuietly)

end Flush

namespace Flusher

open SqlBackend.Flush

/-- A flusher that asks somebody for its connections. -/
def ofWait (d : Dialect) (wait : Value) : Except Fault Flusher := do
  return ⟨d, .supplied, ← Wait.ofValue wait⟩

/-- A flusher that opens its own connections, as the settings say. -/
def ofSettings (d : Dialect) (settings : LooseSettings) (overrides : Table String Value) :
    Action Flusher := do
  let config ← Pool.buildConfig d settings overrides
  let wait ← Wait.ofValue settings.fallbackWait
  return ⟨d, .configured config, wait⟩

def openConnection (f : Flusher) : Action Unit := do
  match f.source with
  | .supplied =>
    Action.perform (.request (← Action.world).locked)
    Action.connect .unnamed
  | .configured config => f.dialect.connect config.loose

def attempt (f : Flusher) : Action Unit := do
  f.openConnection
  flushThrough f.dialect.flushStatements

/-- What follows an attempt: a confirmed flush is recorded, and after any other the flusher waits. -/
def conclude (f : Flusher) : Except Fault Unit → Action Unit
  | .ok () => Action.log (confirmedRecord f.dialect.title)
  | .error fault => do
    Action.log (failureRecord f.dialect.title fault)
    Action.log (waitRecord f.dialect.title f.wait)
    Action.sleep f.wait.given

/-- Flushes the log, or waits. -/
def flush (f : Flusher) : Action Unit :=
  Action.holdingLock do
    f.conclude (← Action.guarded f.attempt)

end Flusher

end SqlBackend
