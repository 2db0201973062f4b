import SqlBackend.Proofs.Credential.Redacted
import SqlBackend.Proofs.Flush.Handover
import SqlBackend.Proofs.Pool.Build

/-!
# Credentials that are withheld

A database file knows no credentials, and what opens it leaves them out by their exact names, also
when they are in the configuration. `Withholds` is said of whole operations: among the calls that they
make, none opens a connection with a credential.
-/

namespace SqlBackend

open SqlBackend.Pool

namespace Action

variable {α β : Type}

/-- Among the calls of the action, none opens a connection with a credential under its own name. -/
def Withholds (action : Action α) : Prop :=
  ∀ script world, ∃ made, (run action script world).2.calls = world.calls ++ made ∧
    ∀ target, Call.connect target ∈ made →
      ∀ argument ∈ target.arguments, isCredential argument.1 = false

/-- What follows without any calls before it decides alone. -/
theorem Withholds.of_silent_bind {action : Action α} {next : α → Action β} (h : Silent action)
    (hnext : ∀ a, (∃ script world, (run action script world).1 = .ok a) → Withholds (next a)) :
    Withholds (action >>= next) := by
  intro script world
  obtain ⟨outcome, records, hrun⟩ := h script world
  cases outcome with
  | error fault =>
      rw [run_bind_of_error hrun]
      refine ⟨[], World.calls_extend _ _ _, ?_⟩
      intro target hmem
      cases hmem
  | ok a =>
      have hok : (run action script world).1 = .ok a := by
        rw [hrun]
      rw [run_bind_of_ok hrun]
      obtain ⟨made, hcalls, hmade⟩ := hnext a ⟨script, world, hok⟩ script (world.extend [] records)
      refine ⟨made, ?_, hmade⟩
      rw [hcalls, World.calls_extend, List.append_nil]

end Action

open SqlBackend.Action

namespace Connection

/-- A file is opened without credentials, whatever the properties are. -/
theorem not_isCredential_of_sqliteTarget {config : LooseConfig} {script : Script}
    {world : World} {target : Target} (h : (run (sqliteTarget config) script world).1 = .ok target) :
    ∀ argument ∈ target.arguments, isCredential argument.1 = false := by
  obtain ⟨later, h⟩ : ∃ later, run (sqliteTarget config) script world = (.ok target, later) :=
    ⟨_, Prod.ext h rfl⟩
  obtain ⟨-, -, h⟩ := (run_bind_eq_ok_iff (run_requireDriver script world)).mp h
  obtain ⟨address, -, h⟩ := (run_bind_eq_ok_iff rfl).mp h
  obtain ⟨-, -, h⟩ := (run_bind_eq_ok_iff rfl).mp h
  obtain ⟨properties, -, h⟩ := (run_bind_eq_ok_iff rfl).mp h
  obtain ⟨-, -, h⟩ := (run_bind_eq_ok_iff rfl).mp h
  cases h
  intro argument hmem
  have hkept : (!isCredential argument.1) = true := (List.mem_filter.mp hmem).2
  rw [Bool.not_eq_true'] at hkept
  exact hkept

end Connection

namespace Flush

theorem withholds_opening (engine : Engine) {target : Target}
    (h : ∀ argument ∈ target.arguments, isCredential argument.1 = false) :
    Withholds (engine.opening target) := by
  intro script world
  rw [engine.run_opening]
  refine ⟨_, World.calls_extend _ _ _, ?_⟩
  intro other hmem
  rw [eq_of_mem_openingCalls hmem]
  exact h

theorem withholds_ownFlush (engine : Engine) (statements : List String) {target : Target}
    (h : ∀ argument ∈ target.arguments, isCredential argument.1 = false) :
    Withholds (ownFlush engine statements target) := by
  intro script world
  rw [run_ownFlush]
  refine ⟨_, World.calls_extend _ _ _, ?_⟩
  intro other hmem
  rw [eq_of_mem_ownCalls hmem]
  exact h

end Flush

namespace Dialect

theorem withholds_connect_sqlite (config : LooseConfig) : Withholds (Dialect.sqlite.connect config) := by
  rw [sqlite.connect_eq rfl]
  apply Withholds.of_silent_bind (Engine.silent_target .sqlite config)
  rintro target ⟨script, world, htarget⟩
  exact Flush.withholds_opening .sqlite (Connection.not_isCredential_of_sqliteTarget htarget)

end Dialect

namespace Flusher

open SqlBackend.Flush

theorem withholds_flush {f : Flusher} (h : Withholds f.attempt) : Withholds f.flush := by
  intro script world
  obtain ⟨made, hcalls, hmade⟩ := h script { world with locked := true }
  obtain ⟨waits, hflush, hwaits⟩ := calls_flush f script world
  refine ⟨made ++ waits, ?_, ?_⟩
  · rw [hflush, hcalls, List.append_assoc]
  · intro target hmem
    rcases List.mem_append.mp hmem with hmem | hmem
    · exact hmade target hmem
    · cases hwaits _ hmem

theorem withholds_flush_sqlite (config : PoolConfig) (wait : Wait) :
    Withholds (flush ⟨.sqlite, .configured config, wait⟩) := by
  apply withholds_flush
  rw [@attempt_eq .sqlite .sqlite rfl]
  apply Withholds.of_silent_bind (Engine.silent_target .sqlite config.loose)
  rintro target ⟨script, world, htarget⟩
  exact withholds_ownFlush .sqlite _ (Connection.not_isCredential_of_sqliteTarget htarget)

end Flusher

end SqlBackend
