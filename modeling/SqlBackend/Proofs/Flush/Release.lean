import SqlBackend.Dialect.Builtin
import SqlBackend.Proofs.Flush.Attempt

/-!
# What a flush leaves behind

The driver sees the calls of `flushCalls` and no others, whatever fails and whether the flush returns
or an interrupt ends it: what was obtained is released, each thing once and the connection last. The
lock is held when the connection is asked for and free after the flush. In a row of flushes,
`Flusher.flushAll`, the lock is therefore free whenever one of them starts.
-/

namespace SqlBackend

/-- The calls to the driver; waiting is none. -/
def World.driverCalls (w : World) : List Call := w.calls.filter fun c => !c.isSleep

namespace Flush

theorem isSleep_of_mem_cursorCalls {statements : List String} {script : Script}
    {answers : List (Option DriverError)} {c : Call}
    (h : c ∈ cursorCalls statements script answers) : c.isSleep = false := by
  cases hcursor : script.cursor with
  | some error =>
      rw [cursorCalls, hcursor] at h
      rw [List.mem_singleton.mp h]
      rfl
  | none =>
      rw [cursorCalls, hcursor] at h
      rcases List.mem_cons.mp h with rfl | h
      · rfl
      rcases List.mem_append.mp h with h | h
      · obtain ⟨statement, -, rfl⟩ := List.mem_map.mp h
        rfl
      · rw [List.mem_singleton.mp h]
        rfl

theorem isSleep_of_mem_flushCalls {statements : List String} {script : Script}
    {answers : List (Option DriverError)} {c : Call}
    (h : c ∈ flushCalls statements script answers) : c.isSleep = false := by
  rw [flushCalls] at h
  rcases List.mem_cons.mp h with rfl | h
  · rfl
  rcases List.mem_cons.mp h with rfl | h
  · rfl
  cases hconnect : script.connect with
  | some error =>
      rw [hconnect] at h
      cases h
  | none =>
      rw [hconnect] at h
      rcases List.mem_append.mp h with h | h
      · exact isSleep_of_mem_cursorCalls h
      rcases List.mem_cons.mp h with rfl | h
      · rfl
      · rw [List.mem_singleton.mp h]
        rfl

/-- None of the calls of a flush is a wait, so the driver sees them all. -/
theorem filter_flushCalls (statements : List String) (script : Script)
    (answers : List (Option DriverError)) :
    (flushCalls statements script answers).filter (fun c => !c.isSleep) =
      flushCalls statements script answers := by
  rw [List.filter_eq_self]
  intro c hc
  rw [isSleep_of_mem_flushCalls hc]
  rfl

end Flush

namespace Flusher

open SqlBackend.Action SqlBackend.Flush

theorem driverCalls_flush_supplied (d : Dialect) (wait : Wait) (script : Script)
    (world : World) :
    (run (flush ⟨d, .supplied, wait⟩) script world).2.driverCalls =
      world.driverCalls ++ flushCalls d.flushStatements script (script.pending world) := by
  have hattempt := run_attempt_supplied d wait script world
  cases herror : attemptError d.flushStatements script (script.pending world) with
  | none =>
      rw [herror] at hattempt
      rw [run_flush_of_ok hattempt]
      simp [World.driverCalls, filter_flushCalls]
  | some error =>
      rw [herror] at hattempt
      cases hi : (Fault.raised error).isInterrupt with
      | true =>
          rw [run_flush_of_interrupt hattempt hi]
          simp [World.driverCalls, filter_flushCalls]
      | false =>
          rw [run_flush_of_error hattempt hi]
          simp [World.driverCalls, filter_flushCalls]

/-- A row of flushes, each with its own script: the worlds that they find and leave. Every flush
begins its own list of calls, and only the lock is handed on. -/
def flushAll : List (Flusher × Script) → Bool → List (World × World)
  | [], _ => []
  | (f, script) :: rest, locked =>
      let before : World := { locked := locked }
      let after := (run f.flush script before).2
      (before, after) :: flushAll rest after.locked

theorem locked_flush (f : Flusher) (script : Script) (world : World) :
    (run f.flush script world).2.locked = false :=
  locked_holdingLock _ script world

/-- A row that finds the lock free keeps it free from flush to flush. -/
theorem locked_of_mem_flushAll {row : List (Flusher × Script)} {step : World × World}
    (h : step ∈ flushAll row false) : step.1.locked = false ∧ step.2.locked = false := by
  induction row with
  | nil => cases h
  | cons entry rest ih =>
      obtain ⟨f, script⟩ := entry
      rw [flushAll, locked_flush] at h
      rcases List.mem_cons.mp h with rfl | h
      · exact ⟨rfl, locked_flush f script _⟩
      · exact ih h

/-- A flush through a supplied connection makes the calls of `flushCalls`, the first of them with the
lock held, and leaves the lock free; so every flush of a row finds it free and leaves it free. -/
theorem flush_releases_connection_and_lock (d : Dialect) (wait : Wait) :
    (∀ (script : Script) (world : World),
      (run (flush ⟨d, .supplied, wait⟩) script world).2.driverCalls =
          world.driverCalls ++ flushCalls d.flushStatements script (script.pending world) ∧
        (run (flush ⟨d, .supplied, wait⟩) script world).2.locked = false) ∧
      ∀ (row : List (Flusher × Script)), ∀ step ∈ flushAll row false,
        step.1.locked = false ∧ step.2.locked = false := by
  constructor
  · intro script world
    exact ⟨driverCalls_flush_supplied d wait script world, locked_flush _ script world⟩
  · intro row step h
    exact locked_of_mem_flushAll h

/-- A driver that is interrupted in the second statement and again in the commit, and that can close
neither cursor nor connection. -/
def interruptedTwice : Script where
  execute := [none, some ⟨.interrupt, "statement", [], []⟩]
  closeCursor := some ⟨.ordinary, "cursor", [], []⟩
  commit := some ⟨.interrupt, "commit", [], []⟩
  close := some ⟨.system, "connection", [], []⟩

theorem flush_releases_when_interruptedTwice :
    ∃ f : Flusher, f.dialect = .mysql ∧
      (run f.flush interruptedTwice {}).1 = .error (.raised ⟨.interrupt, "commit", [], []⟩) ∧
      (run f.flush interruptedTwice {}).2.driverCalls =
        [.request true, .connect .unnamed, .cursor,
          .execute "CREATE TABLE IF NOT EXISTS flush_enforcer (dummy_column INTEGER) ENGINE = InnoDB",
          .execute "DROP TABLE IF EXISTS flush_enforcer", .closeCursor, .commit, .close] ∧
      (run f.flush interruptedTwice {}).2.locked = false ∧
      ∃ step ∈ flushAll [(f, interruptedTwice)] false,
        step.1.locked = false ∧ step.2.locked = false := by
  have wait : Wait := ⟨defaultWait, threeSeconds.amount⟩
  obtain ⟨hflush, hrow⟩ := flush_releases_connection_and_lock .mysql wait
  obtain ⟨hcalls, hlocked⟩ := hflush interruptedTwice {}
  have hmem : (({} : World), (run (flush ⟨.mysql, .supplied, wait⟩) interruptedTwice {}).2) ∈
      flushAll [(⟨.mysql, .supplied, wait⟩, interruptedTwice)] false := List.mem_cons_self
  exact ⟨⟨.mysql, .supplied, wait⟩, rfl, rfl, hcalls, hlocked, _, hmem, hrow _ _ hmem⟩

end Flusher

end SqlBackend
