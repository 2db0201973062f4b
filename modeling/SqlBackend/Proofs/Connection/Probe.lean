import SqlBackend.Connection.Probe
import SqlBackend.Proofs.Action.Answer
import SqlBackend.Proofs.Dialect.Readable

/-!
# The question whether a database exists

The question is put to the driver by `existenceQuery`, and the rest depends on how that ends: a row is
read, an interrupt goes through, and any other error of the driver leaves the question open. Reading a
row may fail as well, but not by an interrupt.
-/

namespace SqlBackend

open SqlBackend.Action

namespace Connection

theorem ordinary_of_countIsPositive {row : Value} {fault : Fault}
    (h : countIsPositive row = .error fault) : Ordinary fault := by
  unfold countIsPositive at h
  split at h
  · next first rest =>
      cases hamount : first.amount? with
      | none =>
          rw [hamount] at h
          cases h
          rfl
      | some amount =>
          rw [hamount] at h
          cases h
  · cases h
    rfl
  · split at h
    · cases h
      rfl
    · cases h

end Connection

namespace Dialect

open SqlBackend.Connection

/-- The question itself, before its answer is read. -/
def existenceQuery (d : Dialect) (name : Value) : Action Value :=
  withCursor (executeWith d.databaseExistsSql [name] >>= fun _ => fetchRow)

/-- Nobody but the driver leaves the question without an answer. -/
theorem follows_existenceQuery (d : Dialect) (name : Value) :
    Follows (fun _ => False) (d.existenceQuery name) :=
  Follows.withCursor ((follows_executeWith _ _).bind fun _ => follows_fetchRow)

/-- A driver's error has arguments that can be looked at, so it can always be classified. -/
theorem exists_classify_raised (d : Dialect) (error : DriverError) :
    ∃ kind, d.classify (.raised error) = .ok kind := by
  have hreadable : (Value.raised error).HasReadableArguments :=
    Value.hasReadableArguments_of_ne_object fun _ => by simp
  obtain ⟨code, hcode⟩ := d.exists_nativeCode hreadable
  exact ⟨_, classify_of_nativeCode hcode⟩

variable {d : Dialect} {name : Value} {script : Script} {world later : World}

theorem run_databaseExists_of_ok {row : Value}
    (h : run (d.existenceQuery name) script world = (.ok row, later)) :
    run (d.databaseExists name) script world = (countIsPositive row, later) :=
  run_bind_of_ok (run_guarded_of_ok h)

theorem run_databaseExists_of_interrupt {fault : Fault}
    (h : run (d.existenceQuery name) script world = (.error fault, later))
    (interrupt : fault.isInterrupt = true) :
    run (d.databaseExists name) script world = (.error fault, later) :=
  run_bind_of_error (run_guarded_of_interrupt h interrupt)

/-- An ordinary error of the driver leaves the question open, and the fault names its kind. -/
theorem run_databaseExists_of_classify {error : DriverError} {kind : Option ErrorKind}
    (h : run (d.existenceQuery name) script world = (.error (.raised error), later))
    (ordinary : (Fault.raised error).isInterrupt = false)
    (hkind : d.classify (.raised error) = .ok kind) :
    run (d.databaseExists name) script world = (.error (.serviceFailure kind error), later) := by
  have hguarded := run_guarded_of_error h ordinary
  have hfail : run (ofExcept (d.classify (.raised error)) >>= fun kind =>
      (Action.fail (.serviceFailure kind error) : Action Bool)) script later =
      (.error (.serviceFailure kind error), later) := by
    rw [hkind]
    rfl
  exact (run_bind_of_ok hguarded).trans hfail

/-- An ordinary error of the driver leaves the question open, under whatever kind it comes. -/
theorem run_databaseExists_of_error {error : DriverError}
    (h : run (d.existenceQuery name) script world = (.error (.raised error), later))
    (ordinary : (Fault.raised error).isInterrupt = false) :
    ∃ kind, run (d.databaseExists name) script world =
      (.error (.serviceFailure kind error), later) := by
  obtain ⟨kind, hkind⟩ := d.exists_classify_raised error
  exact ⟨kind, run_databaseExists_of_classify h ordinary hkind⟩

end Dialect

end SqlBackend
