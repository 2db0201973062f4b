import SqlBackend.Dialect.Builtin
import SqlBackend.Proofs.Connection.Probe
import SqlBackend.Proofs.Flush.Verdict

/-!
# Interrupts

No handler holds an interrupt back, but the cleanup that runs after it may fail, and its failure
takes the interrupt's place. So an interrupt gets out of a flush, or out of the question whether a
database exists, exactly if the last failure that counts is an interrupt. A commit that fails after
an interrupted statement, or a cursor that cannot be closed after it, makes an ordinary failure of
it: `interrupt_lost_in_cleanup`.
-/

namespace SqlBackend

open SqlBackend.Action

variable {α : Type}

/-- An outcome that is an interrupt. -/
def Interrupted (outcome : Except Fault α) : Prop :=
  ∃ error : DriverError, outcome = .error (.raised error) ∧ error.severity = .interrupt

/-- The last failure that counts is an interrupt. -/
def Script.EndsInInterrupt (script : Script) (n : Nat) (calls : List Call) : Prop :=
  ∃ failure, script.verdict n calls = some failure ∧ failure.isInterrupt = true

theorem interrupted_error_iff (fault : Fault) :
    Interrupted (.error fault : Except Fault α) ↔ fault.isInterrupt = true := by
  constructor
  · rintro ⟨error, herror, hinterrupt⟩
    cases herror
    simpa [Fault.isInterrupt] using hinterrupt
  · intro h
    cases fault with
    | raised error => exact ⟨error, rfl, by simpa [Fault.isInterrupt] using h⟩
    | _ => cases h

theorem not_interrupted_ok (a : α) : ¬ Interrupted (.ok a : Except Fault α) := by
  rintro ⟨error, herror, -⟩
  cases herror

/-- An outcome that agrees with a verdict is interrupted if the verdict is an interrupt. -/
theorem interrupted_iff_of_agrees {verdict : Option Failure} {outcome : Except Fault α}
    (h : Agrees Ordinary verdict outcome) :
    Interrupted outcome ↔ ∃ failure, verdict = some failure ∧ failure.isInterrupt = true := by
  cases verdict with
  | some failure =>
      cases h
      rw [interrupted_error_iff]
      constructor
      · intro hinterrupt
        exact ⟨failure, rfl, hinterrupt⟩
      · rintro ⟨other, hother, hinterrupt⟩
        cases hother
        exact hinterrupt
  | none =>
      constructor
      · intro hinterrupt
        cases outcome with
        | ok a => exact absurd hinterrupt (not_interrupted_ok a)
        | error fault =>
            rw [interrupted_error_iff] at hinterrupt
            have hordinary : fault.isInterrupt = false := h
            rw [hinterrupt] at hordinary
            cases hordinary
      · rintro ⟨failure, hfailure, -⟩
        cases hfailure

namespace Flusher

/-- What the clock answers is no interrupt. -/
theorem not_interrupted_refusal (script : Script) (seconds : Value) :
    ¬ Interrupted (endingWith (script.refusal seconds)) := by
  rw [Script.refusal]
  cases script.clock seconds with
  | none => exact not_interrupted_ok ()
  | some text =>
      rw [Option.map_some, endingWith_some, interrupted_error_iff]
      simp [Fault.isInterrupt]

/-- A flush that no interrupt ends returns, unless it waits and the clock refuses the wait. One that an
interrupt ends does not wait. -/
theorem interrupted_flush_iff (f : Flusher) (script : Script) (world : World) :
    ∃ made, (run f.flush script world).2.calls = world.calls ++ made ∧
      (Interrupted (run f.flush script world).1 ↔ script.EndsInInterrupt world.executed made) ∧
      (Interrupted (run f.flush script world).1 → ∀ c ∈ made, c.isSleep = false) ∧
      (¬ Interrupted (run f.flush script world).1 → (run f.flush script world).1 = .ok () ∨
        .sleep f.wait.given ∈ made ∧
          (run f.flush script world).1 = endingWith (script.refusal f.wait.given)) := by
  obtain ⟨made, hcalls, hsleep, hagrees⟩ :=
    f.refusesFirst_attempt.follows script { world with locked := true }
  rcases hattempt : run f.attempt script { world with locked := true } with ⟨outcome, later⟩
  rw [hattempt] at hcalls hagrees
  have hiff : Interrupted outcome ↔ script.EndsInInterrupt world.executed made :=
    interrupted_iff_of_agrees hagrees
  cases outcome with
  | ok _ =>
      rw [run_flush_of_ok hattempt]
      refine ⟨made, by simpa using hcalls, hiff, fun _ => hsleep, fun _ => .inl rfl⟩
  | error fault =>
      cases hi : fault.isInterrupt with
      | true =>
          rw [run_flush_of_interrupt hattempt hi]
          refine ⟨made, hcalls, hiff, fun _ => hsleep, ?_⟩
          intro hnot
          exact absurd ((interrupted_error_iff fault).mpr hi) hnot
      | false =>
          have hordinary := not_interrupted_refusal script f.wait.given
          have hverdict := script.verdict_append world.executed made [.sleep f.wait.given]
          rw [Script.verdict_singleton _ _ rfl, Script.answer] at hverdict
          have hnot : ¬ script.EndsInInterrupt world.executed (made ++ [.sleep f.wait.given]) := by
            rw [Script.EndsInInterrupt, hverdict]
            cases hrefusal : script.refusal f.wait.given with
            | none => exact hiff.not.mp (by rw [interrupted_error_iff, hi]; simp)
            | some error =>
                rw [hrefusal, endingWith_some, interrupted_error_iff] at hordinary
                rintro ⟨failure, hfailure, hinterrupt⟩
                cases hfailure
                exact hordinary hinterrupt
          rw [run_flush_of_error hattempt hi]
          refine ⟨made ++ [.sleep f.wait.given], ?_, iff_of_false hordinary hnot, ?_, ?_⟩
          · rw [← List.append_assoc, ← show later.calls = world.calls ++ made from hcalls]
            rfl
          · intro h
            exact absurd h hordinary
          · intro _
            exact .inr ⟨List.mem_append_right made List.mem_cons_self, rfl⟩

end Flusher

namespace Dialect

open SqlBackend.Connection

/-- The question is interrupted as its calls demand, and an ordinary failure leaves it unanswered. -/
theorem interrupted_databaseExists_iff (d : Dialect) (name : Value) (script : Script)
    (world : World) :
    ∃ made, (run (d.databaseExists name) script world).2.calls = world.calls ++ made ∧
      (Interrupted (run (d.databaseExists name) script world).1 ↔
        script.EndsInInterrupt world.executed made) ∧
      ∀ failure, script.verdict world.executed made = some failure →
        failure.isInterrupt = false →
          ∃ kind, (run (d.databaseExists name) script world).1 =
            .error (.serviceFailure kind failure.error) := by
  obtain ⟨made, hcalls, -, hagrees⟩ := d.follows_existenceQuery name script world
  rcases hquery : run (d.existenceQuery name) script world with ⟨outcome, later⟩
  rw [hquery] at hcalls hagrees
  refine ⟨made, ?_⟩
  rw [Script.EndsInInterrupt]
  cases hverdict : script.verdict world.executed made with
  | none =>
      rw [hverdict] at hagrees
      cases outcome with
      | error fault => exact absurd hagrees id
      | ok row =>
          have hreading : Agrees Ordinary none (countIsPositive row) := by
            cases hrow : countIsPositive row with
            | ok b => trivial
            | error fault => exact ordinary_of_countIsPositive hrow
          rw [run_databaseExists_of_ok hquery]
          refine ⟨hcalls, interrupted_iff_of_agrees hreading, ?_⟩
          intro failure hfailure
          cases hfailure
  | some failure =>
      rw [hverdict] at hagrees
      cases hagrees
      cases hi : (Fault.raised failure.error).isInterrupt with
      | true =>
          have hraised : Agrees Ordinary (some failure)
              (.error (.raised failure.error) : Except Fault Bool) := rfl
          rw [run_databaseExists_of_interrupt hquery hi]
          refine ⟨hcalls, interrupted_iff_of_agrees hraised, ?_⟩
          intro other hother hordinary
          cases hother
          exact absurd (hordinary.symm.trans hi) (by simp)
      | false =>
          obtain ⟨kind, hrun⟩ := run_databaseExists_of_error hquery hi
          rw [hrun, interrupted_error_iff]
          refine ⟨hcalls, ?_, ?_⟩
          · constructor
            · intro h
              cases h
            · rintro ⟨other, hother, hinterrupt⟩
              cases hother
              exact absurd (hinterrupt.symm.trans hi) (by simp)
          · intro other hother _
            cases hother
            exact ⟨kind, rfl⟩

end Dialect

/-- An interrupt ends a flush, or the question whether a database exists, exactly if the last failure
that counts among the calls made is an interrupt. A flush that an interrupt ends has not waited; any
other flush returns, or has waited and ends as the clock answered. If the last failure is an ordinary
one, the question counts as unanswered because of it, whatever interrupts came before. -/
theorem interrupted_iff_last_failure (f : Flusher) (d : Dialect) (name : Value)
    (script : Script) (world : World) :
    (∃ made, (run f.flush script world).2.calls = world.calls ++ made ∧
      (Interrupted (run f.flush script world).1 ↔ script.EndsInInterrupt world.executed made) ∧
      (Interrupted (run f.flush script world).1 → ∀ c ∈ made, c.isSleep = false) ∧
      (¬ Interrupted (run f.flush script world).1 → (run f.flush script world).1 = .ok () ∨
        .sleep f.wait.given ∈ made ∧
          (run f.flush script world).1 = endingWith (script.refusal f.wait.given))) ∧
    ∃ made, (run (d.databaseExists name) script world).2.calls = world.calls ++ made ∧
      (Interrupted (run (d.databaseExists name) script world).1 ↔
        script.EndsInInterrupt world.executed made) ∧
      ∀ failure, script.verdict world.executed made = some failure →
        failure.isInterrupt = false →
          ∃ kind, (run (d.databaseExists name) script world).1 =
            .error (.serviceFailure kind failure.error) :=
  ⟨f.interrupted_flush_iff script world, d.interrupted_databaseExists_iff name script world⟩

/-- A driver that is interrupted in a statement, and whose connection cannot be closed afterwards. -/
def interruptedOnly : Script where
  execute := [some ⟨.interrupt, "statement", [], []⟩]
  close := some ⟨.ordinary, "connection", [], []⟩

/-- An interrupt gets out as long as only the closing of the connection fails after it. -/
theorem interrupt_escapes_when_interruptedOnly :
    Interrupted (run (Flusher.flush ⟨.oracle, .supplied, ⟨Flush.defaultWait, threeSeconds.amount⟩⟩)
        interruptedOnly {}).1 ∧
      Interrupted (run (Dialect.mysql.databaseExists (.text "store")) interruptedOnly {}).1 := by
  obtain ⟨⟨made, hcalls, hflush, -⟩, ⟨asked, hasked, hquestion, -⟩⟩ :=
    interrupted_iff_last_failure ⟨.oracle, .supplied, ⟨Flush.defaultWait, threeSeconds.amount⟩⟩
      .mysql (.text "store") interruptedOnly {}
  obtain rfl : _ = made := hcalls
  obtain rfl : _ = asked := hasked
  exact ⟨hflush.mpr ⟨_, rfl, rfl⟩, hquestion.mpr ⟨_, rfl, rfl⟩⟩

/-- A driver that is interrupted in a statement and cannot commit or close the cursor afterwards. -/
def interruptedStatement : Script where
  execute := [some ⟨.interrupt, "statement", [], []⟩]
  closeCursor := some ⟨.ordinary, "cursor", [], []⟩
  commit := some ⟨.ordinary, "commit", [], []⟩

/-- An interrupt may be lost: a call raises one, and yet the flush waits and returns, and the question
whether a database exists ends with an ordinary fault. -/
theorem interrupt_lost_in_cleanup :
    (∃ failure ∈ interruptedStatement.failures 0
        (run (Flusher.flush ⟨.oracle, .supplied, ⟨Flush.defaultWait, threeSeconds.amount⟩⟩)
          interruptedStatement {}).2.calls, failure.isInterrupt = true) ∧
      (run (Flusher.flush ⟨.oracle, .supplied, ⟨Flush.defaultWait, threeSeconds.amount⟩⟩)
        interruptedStatement {}).1 = .ok () ∧
      (run (Flusher.flush ⟨.oracle, .supplied, ⟨Flush.defaultWait, threeSeconds.amount⟩⟩)
        interruptedStatement {}).2.calls =
          [.request true, .connect .unnamed, .cursor, .execute "ALTER SYSTEM CHECKPOINT",
            .closeCursor, .commit, .close, .sleep Flush.defaultWait] ∧
      (∃ failure ∈ interruptedStatement.failures 0
        (run (Dialect.mysql.databaseExists (.text "store")) interruptedStatement {}).2.calls,
          failure.isInterrupt = true) ∧
      (run (Dialect.mysql.databaseExists (.text "store")) interruptedStatement {}).1 =
        .error (.serviceFailure none ⟨.ordinary, "cursor", [], []⟩) := by
  refine ⟨by decide, rfl, rfl, by decide, rfl⟩

end SqlBackend
