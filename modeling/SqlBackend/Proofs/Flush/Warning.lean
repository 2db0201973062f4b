import SqlBackend.Flush.Flusher
import SqlBackend.Proofs.Action.Answer

/-!
# Who warns of a flush

An attempt to flush writes records, of the connection that it opens and of one that it cannot close,
but none of them is a warning. So the warnings of a flush are those of its conclusion.
-/

namespace SqlBackend

/-- The warnings among the records. -/
def World.warnings (w : World) : List Record := w.records.filter fun r => r.level = .warning

namespace Action

variable {α β : Type}

/-- An action that adds no warning to the records. -/
def NeverWarns (action : Action α) : Prop :=
  ∀ script world, (run action script world).2.warnings = world.warnings

theorem neverWarns_pure (a : α) : NeverWarns (pure a) := fun _ _ => rfl

theorem neverWarns_ofExcept (outcome : Except Fault α) : NeverWarns (ofExcept outcome) :=
  fun _ _ => rfl

theorem neverWarns_call (c : Call) (failure : Script → World → Option DriverError) :
    NeverWarns (call c failure) := fun _ _ => rfl

theorem neverWarns_log {record : Record} (h : record.level ≠ .warning) : NeverWarns (log record) := by
  intro script world
  rw [run_log, World.warnings, World.record, List.filter_append]
  simp [h, World.warnings]

theorem NeverWarns.bind {action : Action α} {next : α → Action β} (h : NeverWarns action)
    (hnext : ∀ a, NeverWarns (next a)) : NeverWarns (action >>= next) := by
  intro script world
  have hworld := h script world
  rcases hrun : run action script world with ⟨outcome, later⟩
  rw [hrun] at hworld
  cases outcome with
  | error fault => rw [run_bind_of_error hrun, hworld]
  | ok a => rw [run_bind_of_ok hrun, hnext a script later, hworld]

theorem NeverWarns.thenAlways {work : Action α} {last : Action Unit} (h : NeverWarns work)
    (hlast : NeverWarns last) : NeverWarns (work.thenAlways last) := by
  intro script world
  have hworld := h script world
  rcases hrun : run work script world with ⟨outcome, middle⟩
  have hlater := hlast script middle
  rcases hending : run last script middle with ⟨ending, later⟩
  rw [hrun] at hworld
  rw [hending] at hlater
  rw [run_thenAlways, hrun]
  simp only [hending]
  cases ending with
  | ok _ => exact hlater.trans hworld
  | error fault => exact hlater.trans hworld

theorem NeverWarns.guarded {work : Action α} (h : NeverWarns work) :
    NeverWarns (guarded work) := by
  intro script world
  have hworld := h script world
  rcases hrun : run work script world with ⟨outcome, later⟩
  rw [hrun] at hworld
  cases outcome with
  | ok a => rw [run_guarded_of_ok hrun, hworld]
  | error fault =>
      cases hi : fault.isInterrupt with
      | true => rw [run_guarded_of_interrupt hrun hi, hworld]
      | false => rw [run_guarded_of_error hrun hi, hworld]

theorem NeverWarns.withCursor {work : Action α} (h : NeverWarns work) :
    NeverWarns (withCursor work) :=
  (neverWarns_call _ _).bind fun _ => h.thenAlways (neverWarns_call _ _)

theorem neverWarns_requireDriver : NeverWarns requireDriver := by
  intro script world
  rw [run_requireDriver]

end Action

open SqlBackend.Action

namespace Engine

open SqlBackend.Connection

theorem neverWarns_attemptRecord (engine : Engine) (message : String) :
    NeverWarns (log (attemptRecord engine message)) :=
  neverWarns_log (by simp [attemptRecord])

theorem neverWarns_target (engine : Engine) (config : LooseConfig) :
    NeverWarns (engine.target config) := by
  cases engine with
  | mysql =>
      refine neverWarns_requireDriver.bind fun _ => ?_
      refine (neverWarns_ofExcept (addressOf config.connectionUrl)).bind fun address => ?_
      refine (neverWarns_attemptRecord .mysql _).bind fun _ => ?_
      refine (neverWarns_ofExcept (portOf address)).bind fun port => ?_
      refine (neverWarns_ofExcept config.driverArguments).bind fun properties => ?_
      exact (neverWarns_ofExcept (joinArguments _ properties)).bind fun _ => neverWarns_pure _
  | oracle =>
      refine neverWarns_requireDriver.bind fun _ => ?_
      refine (neverWarns_ofExcept (addressOf config.connectionUrl)).bind fun address => ?_
      refine (neverWarns_ofExcept (portOf address)).bind fun port => ?_
      refine (neverWarns_attemptRecord .oracle _).bind fun _ => ?_
      refine (neverWarns_ofExcept config.driverArguments).bind fun properties => ?_
      exact (neverWarns_ofExcept (joinArguments _ properties)).bind fun _ => neverWarns_pure _
  | sqlite =>
      refine neverWarns_requireDriver.bind fun _ => ?_
      refine (neverWarns_ofExcept (addressOf config.connectionUrl)).bind fun address => ?_
      refine (neverWarns_attemptRecord .sqlite _).bind fun _ => ?_
      refine (neverWarns_ofExcept config.driverArguments).bind fun properties => ?_
      exact (neverWarns_ofExcept (joinArguments _ _)).bind fun _ => neverWarns_pure _

theorem neverWarns_opening (engine : Engine) (target : Target) :
    NeverWarns (engine.opening target) := by
  refine (neverWarns_call _ _).bind fun _ => ?_
  cases engine with
  | sqlite => exact neverWarns_call _ _
  | mysql | oracle => exact neverWarns_pure _

end Engine

namespace Flush

theorem neverWarns_executeAll (statements : List String) : NeverWarns (executeAll statements) := by
  induction statements with
  | nil => exact neverWarns_pure ()
  | cons statement rest ih => exact (neverWarns_call _ _).bind fun _ => ih

/-- A connection that cannot be closed is no reason for a warning. -/
theorem neverWarns_closeQuietly : NeverWarns closeQuietly := by
  have hclose : NeverWarns Action.close := neverWarns_call _ _
  refine hclose.guarded.bind fun outcome => ?_
  cases outcome with
  | ok _ => exact neverWarns_pure ()
  | error fault => exact neverWarns_log (by simp [closingRecord, flushRecord])

theorem neverWarns_flushThrough (statements : List String) :
    NeverWarns (flushThrough statements) := by
  have hcommit : NeverWarns Action.commit := neverWarns_call _ _
  exact (neverWarns_executeAll statements).withCursor.thenAlways
    (hcommit.thenAlways neverWarns_closeQuietly)

end Flush

namespace Flusher

theorem neverWarns_openConnection (f : Flusher) : NeverWarns f.openConnection := by
  obtain ⟨d, source, wait⟩ := f
  cases source with
  | supplied =>
      have hworld : NeverWarns world := fun _ _ => rfl
      exact hworld.bind fun w => (neverWarns_call _ _).bind fun _ => neverWarns_call _ _
  | configured config =>
      show NeverWarns (d.connect config.loose)
      unfold Dialect.connect
      split
      · next engine _ => exact (engine.neverWarns_target _).bind engine.neverWarns_opening
      · exact neverWarns_call _ _

theorem neverWarns_attempt (f : Flusher) : NeverWarns f.attempt :=
  f.neverWarns_openConnection.bind fun _ => Flush.neverWarns_flushThrough f.dialect.flushStatements

end Flusher

end SqlBackend
