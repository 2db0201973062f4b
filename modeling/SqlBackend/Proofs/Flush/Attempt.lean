import SqlBackend.Flush.Flusher
import SqlBackend.Proofs.Action.Answer

/-!
# One attempt to flush

The run of an attempt through a supplied connection is a function of its statements and of the
driver's answers. The statements run up to the first one that fails, a cursor that was obtained is
closed, and a connection that was obtained is committed and closed, in this order and whatever failed
before: `flushCalls`. The error that is left in the end is decided from the outside in, since every
layer of the cleanup replaces what came out of the layers inside: `attemptError`.

A flush is an attempt with the lock held, and what it adds depends on how the attempt ends only.
-/

namespace SqlBackend

namespace Flush

open SqlBackend.Action

/-- The statements up to the first one that fails, where `answers` says what comes of each; a
statement without an answer succeeds. -/
def reached : List String → List (Option DriverError) → List String
  | [], _ => []
  | statements, [] => statements
  | statement :: _, some _ :: _ => [statement]
  | statement :: rest, none :: answers => statement :: reached rest answers

/-- The error of the first statement that fails. -/
def stoppedBy (statements : List String) (answers : List (Option DriverError)) :
    Option DriverError :=
  (answers.take statements.length).findSome? id

/-- The calls of work with a cursor. -/
def cursorCalls (statements : List String) (script : Script)
    (answers : List (Option DriverError)) : List Call :=
  .cursor :: match script.cursor with
    | some _ => []
    | none => (reached statements answers).map Call.execute ++ [.closeCursor]

/-- The calls of a flush through a supplied connection, which is asked for with the lock held. -/
def flushCalls (statements : List String) (script : Script)
    (answers : List (Option DriverError)) : List Call :=
  .request true :: .connect .unnamed :: match script.connect with
    | some _ => []
    | none => cursorCalls statements script answers ++ [.commit, .close]

/-- The error that work with a cursor ends with: that of closing the cursor, or else the one that
stopped the statements. -/
def cursorError (statements : List String) (script : Script)
    (answers : List (Option DriverError)) : Option DriverError :=
  match script.cursor with
  | some error => some error
  | none => script.closeCursor.or (stoppedBy statements answers)

/-- The interrupt that closing the connection raises, if it raises one. -/
def closingInterrupt (script : Script) : Option DriverError :=
  script.close.filter fun error => (Fault.raised error).isInterrupt

/-- The records of closing the connection. -/
def closingRecords (script : Script) : List Record :=
  match script.close with
  | some error =>
      if (Fault.raised error).isInterrupt then [] else [closingRecord (.raised error)]
  | none => []

/-- The error that an attempt ends with. The connection is closed last, but only an interrupt gets out
of closing it. -/
def attemptError (statements : List String) (script : Script)
    (answers : List (Option DriverError)) : Option DriverError :=
  match script.connect with
  | some error => some error
  | none =>
      (closingInterrupt script).or (script.commit.or (cursorError statements script answers))

/-- The records of an attempt. -/
def attemptRecords (script : Script) : List Record :=
  match script.connect with
  | some _ => []
  | none => closingRecords script

theorem nextFailure_of_pending_cons {script : Script} {world : World}
    {answer : Option DriverError} {answers : List (Option DriverError)}
    (h : script.pending world = answer :: answers) : nextFailure script world = answer := by
  have hhead : script.execute[world.executed]? = some answer := by
    rw [← List.head?_drop]
    exact congrArg List.head? h
  rw [nextFailure, hhead, Option.join_some]

theorem nextFailure_of_pending_nil {script : Script} {world : World}
    (h : script.pending world = []) : nextFailure script world = none := by
  have hhead : script.execute[world.executed]? = none := by
    rw [← List.head?_drop]
    exact congrArg List.head? h
  rw [nextFailure, hhead, Option.join_none]

theorem pending_extend_execute (script : Script) (world : World) (statement : String) :
    script.pending (world.extend [.execute statement] []) = (script.pending world).tail := by
  simp [Script.pending, World.executed_extend, Call.isExecute]

/-- Calls that run no statement leave the answers to the statements as they are. -/
theorem pending_extend (script : Script) (world : World) (made : List Call)
    (h : made.countP Call.isExecute = 0) (records : List Record) :
    script.pending (world.extend made records) = script.pending world := by
  rw [Script.pending, World.executed_extend, h, Nat.add_zero, Script.pending]

theorem run_executeAll (statements : List String) (script : Script) (world : World) :
    run (executeAll statements) script world =
      (endingWith (stoppedBy statements (script.pending world)),
        world.extend ((reached statements (script.pending world)).map Call.execute) []) := by
  induction statements generalizing world with
  | nil => simp [executeAll, reached, stoppedBy]
  | cons statement rest ih =>
      have hcall := run_execute statement script world
      have htail := pending_extend_execute script world statement
      change run (execute statement >>= fun _ => executeAll rest) script world = _
      cases hp : script.pending world with
      | nil =>
          rw [nextFailure_of_pending_nil hp] at hcall
          rw [run_bind_of_ok hcall, ih, htail, hp]
          cases rest <;> simp [reached, stoppedBy]
      | cons answer answers =>
          rw [nextFailure_of_pending_cons hp] at hcall
          cases answer with
          | some error =>
              rw [run_bind_of_error hcall]
              simp [reached, stoppedBy]
          | none =>
              rw [run_bind_of_ok hcall, ih, htail, hp]
              simp [reached, stoppedBy]

theorem run_withCursor_executeAll (statements : List String) (script : Script) (world : World) :
    run (withCursor (executeAll statements)) script world =
      (endingWith (cursorError statements script (script.pending world)),
        world.extend (cursorCalls statements script (script.pending world)) []) := by
  have hwork := run_executeAll statements script (world.extend [.cursor] [])
  rw [pending_extend script world _ rfl, World.extend_extend, ← id_map (endingWith _)] at hwork
  have hrun := run_withCursor hwork
  rw [hrun, cursorError, cursorCalls]
  cases script.cursor with
  | some error => rfl
  | none =>
      show (id <$> endingWith _, _) = _
      rw [id_map]
      rfl

theorem run_closeQuietly (script : Script) (world : World) :
    run closeQuietly script world =
      (endingWith (closingInterrupt script), world.extend [.close] (closingRecords script)) := by
  have hclose := run_close script world
  cases hc : script.close with
  | none =>
      rw [hc] at hclose
      rw [closeQuietly, run_bind_of_ok (run_guarded_of_ok hclose), closingInterrupt,
        closingRecords, hc]
      rfl
  | some error =>
      rw [hc] at hclose
      cases hi : (Fault.raised error).isInterrupt with
      | true =>
          rw [closeQuietly, run_bind_of_error (run_guarded_of_interrupt hclose hi),
            closingInterrupt, closingRecords, hc]
          simp [Option.filter_some, hi]
      | false =>
          rw [closeQuietly, run_bind_of_ok (run_guarded_of_error hclose hi), closingInterrupt,
            closingRecords, hc]
          simp only [hi, Option.filter_some, run_log_eq_extend, World.extend_extend]
          rfl

theorem run_flushThrough (statements : List String) (script : Script) (world : World) :
    run (flushThrough statements) script world =
      (endingWith ((closingInterrupt script).or
          (script.commit.or (cursorError statements script (script.pending world)))),
        world.extend
          (cursorCalls statements script (script.pending world) ++ [.commit, .close])
          (closingRecords script)) := by
  have hwork := run_withCursor_executeAll statements script world
  have hrelease : ∀ w, run (commit.thenAlways closeQuietly) script w =
      (endingWith ((closingInterrupt script).or script.commit),
        w.extend [.commit, .close] (closingRecords script)) := by
    intro w
    rw [run_thenAlways_of_endingWith (run_commit script w) (run_closeQuietly script _),
      World.extend_extend]
    rfl
  rw [flushThrough, run_thenAlways_of_endingWith hwork (hrelease _), World.extend_extend,
    Option.or_assoc]
  rfl

end Flush

namespace Flusher

open SqlBackend.Action SqlBackend.Flush

theorem run_openConnection_supplied (d : Dialect) (wait : Wait) (script : Script)
    (world : World) :
    run (openConnection ⟨d, .supplied, wait⟩) script world =
      (endingWith script.connect,
        world.extend [.request world.locked, .connect .unnamed] []) := by
  have hrequest := run_perform (.request world.locked) script world
  have hconnect := run_connect .unnamed script (world.extend [.request world.locked] [])
  rw [World.extend_extend] at hconnect
  change run (perform (.request world.locked) >>= fun _ => connect .unnamed) script world = _
  rw [run_bind_of_ok hrequest, hconnect]
  rfl

theorem run_attempt_supplied (d : Dialect) (wait : Wait) (script : Script) (world : World) :
    run (attempt ⟨d, .supplied, wait⟩) script { world with locked := true } =
      (endingWith (attemptError d.flushStatements script (script.pending world)),
        { world with locked := true }.extend
          (flushCalls d.flushStatements script (script.pending world))
          (attemptRecords script)) := by
  have hopen := run_openConnection_supplied d wait script { world with locked := true }
  cases hc : script.connect with
  | some error =>
      rw [hc] at hopen
      rw [attempt, run_bind_of_error hopen, attemptError, flushCalls, attemptRecords, hc]
      rfl
  | none =>
      rw [hc] at hopen
      have hpending := pending_extend script { world with locked := true }
        [.request true, .connect .unnamed] rfl []
      have hflush := run_flushThrough d.flushStatements script
        ({ world with locked := true }.extend [.request true, .connect .unnamed] [])
      rw [hpending, World.extend_extend] at hflush
      rw [attempt, run_bind_of_ok hopen, attemptError, flushCalls, attemptRecords, hc]
      exact hflush

theorem run_conclude_of_ok (f : Flusher) (script : Script) (world : World) :
    run (f.conclude (.ok ())) script world =
      (.ok (), world.extend [] [confirmedRecord f.dialect.title]) :=
  run_log_eq_extend _ script world

theorem run_conclude_of_error (f : Flusher) (fault : Fault) (script : Script) (world : World) :
    run (f.conclude (.error fault)) script world =
      (endingWith (script.refusal f.wait.given), world.extend [.sleep f.wait.given]
        [failureRecord f.dialect.title fault, waitRecord f.dialect.title f.wait]) := by
  change run (log (failureRecord f.dialect.title fault) >>= fun _ =>
    log (waitRecord f.dialect.title f.wait) >>= fun _ => sleep f.wait.given) script world = _
  rw [run_bind_of_ok (run_log_eq_extend _ script world),
    run_bind_of_ok (run_log_eq_extend _ script _), run_sleep, World.extend_extend,
    World.extend_extend]
  rfl

variable {f : Flusher} {script : Script} {world later : World}

/-- A flush whose attempt succeeds is confirmed. -/
theorem run_flush_of_ok
    (h : run f.attempt script { world with locked := true } = (.ok (), later)) :
    run f.flush script world =
      (.ok (), { later.extend [] [confirmedRecord f.dialect.title] with locked := false }) := by
  rw [flush, run_holdingLock, run_bind_of_ok (run_guarded_of_ok h), run_conclude_of_ok]

/-- A flush whose attempt fails waits, and ends as the clock answers the wait. -/
theorem run_flush_of_error {fault : Fault}
    (h : run f.attempt script { world with locked := true } = (.error fault, later))
    (ordinary : fault.isInterrupt = false) :
    run f.flush script world =
      (endingWith (script.refusal f.wait.given), { later.extend [.sleep f.wait.given]
        [failureRecord f.dialect.title fault, waitRecord f.dialect.title f.wait] with
          locked := false }) := by
  rw [flush, run_holdingLock, run_bind_of_ok (run_guarded_of_error h ordinary),
    run_conclude_of_error]

/-- An interrupt that an attempt ends with ends the flush. -/
theorem run_flush_of_interrupt {fault : Fault}
    (h : run f.attempt script { world with locked := true } = (.error fault, later))
    (interrupt : fault.isInterrupt = true) :
    run f.flush script world = (.error fault, { later with locked := false }) := by
  rw [flush, run_holdingLock, run_bind_of_error (run_guarded_of_interrupt h interrupt)]

end Flusher

end SqlBackend
