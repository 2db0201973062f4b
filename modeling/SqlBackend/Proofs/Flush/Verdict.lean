import SqlBackend.Proofs.Connection.Target
import SqlBackend.Proofs.Connection.Verdict
import SqlBackend.Proofs.Flush.Attempt

/-!
# Flushes follow their driver

An attempt to flush ends as the last failure that counts among its calls demands, whatever way its
connection comes about. The one failure of an attempt that does not count is that of closing the
connection, unless an interrupt is the reason.
-/

namespace SqlBackend

open SqlBackend.Action

variable {refusal : Fault → Prop}

namespace Flush

/-- Closing a connection counts only if an interrupt ends it. -/
theorem verdict_close (script : Script) (n : Nat) :
    script.verdict n [.close] = (closingInterrupt script).map (Failure.mk .close) := by
  rw [Script.verdict, Script.failures_singleton, closingInterrupt]
  change (((script.close.map (Failure.mk .close)).toList).filter _).getLast? = _
  cases script.close with
  | none => rfl
  | some error =>
      cases hi : (Fault.raised error).isInterrupt with
      | true => simp [Failure.isQuiet, Failure.isInterrupt, Call.isClose, Option.filter_some, hi]
      | false => simp [Failure.isQuiet, Failure.isInterrupt, Call.isClose, Option.filter_some, hi]

theorem follows_closeQuietly : Follows refusal closeQuietly := by
  intro script world
  refine ⟨[.close], ?_, by simp [Call.isSleep], ?_⟩
  · rw [run_closeQuietly, World.calls_extend]
  · rw [run_closeQuietly, verdict_close]
    cases closingInterrupt script with
    | none => trivial
    | some error => rfl

theorem follows_executeAll (statements : List String) :
    Follows refusal (executeAll statements) := by
  induction statements with
  | nil => exact follows_pure ()
  | cons statement rest ih => exact (follows_execute statement).bind fun _ => ih

theorem follows_flushThrough (statements : List String) :
    Follows refusal (flushThrough statements) :=
  (follows_executeAll statements).withCursor.thenAlways
    (follows_commit.thenAlways follows_closeQuietly)

end Flush

namespace Flusher

open SqlBackend.Flush

theorem follows_openConnection_supplied (d : Dialect) (wait : Wait) :
    Follows refusal (openConnection ⟨d, .supplied, wait⟩) := by
  have hworld : Follows refusal world :=
    follows_of_calls_eq (fun _ _ => rfl) (fun _ _ _ h => by cases h)
  exact hworld.bind fun w => (follows_request w.locked).bind fun _ => follows_connect .unnamed

/-- Nobody but the driver keeps a flush through a supplied connection from its end. -/
theorem follows_attempt_supplied (d : Dialect) (wait : Wait) :
    Follows refusal (attempt ⟨d, .supplied, wait⟩) :=
  (follows_openConnection_supplied d wait).bind fun _ => follows_flushThrough d.flushStatements

/-- An attempt that opens its own connection may be refused before it is opened. -/
theorem refusesFirst_attempt (f : Flusher) : RefusesFirst f.attempt := by
  obtain ⟨d, source, wait⟩ := f
  cases source with
  | supplied => exact (follows_attempt_supplied d wait).refusesFirst
  | configured config =>
      have hflush : Follows (fun _ => False) (flushThrough d.flushStatements) :=
        follows_flushThrough d.flushStatements
      show RefusesFirst (d.connect config.loose >>= fun _ => flushThrough d.flushStatements)
      unfold Dialect.connect
      split
      · next engine _ =>
          rw [bind_assoc]
          refine .of_silent_bind (engine.silent_target _) (engine.follows_target _) fun target => ?_
          exact (engine.follows_opening target).bind fun _ => hflush
      · exact ((follows_connect _).bind fun _ => hflush).refusesFirst

/-- The error of an attempt is that of the last failure that counts. -/
theorem attemptError_eq_verdict (d : Dialect) (wait : Wait) (script : Script) (world : World) :
    attemptError d.flushStatements script (script.pending world) =
      (script.verdict world.executed
        (flushCalls d.flushStatements script (script.pending world))).map Failure.error := by
  have hrun := run_attempt_supplied d wait script world
  have hverdict := (follows_attempt_supplied d wait).error_eq_verdict hrun
  exact hverdict

end Flusher

end SqlBackend
