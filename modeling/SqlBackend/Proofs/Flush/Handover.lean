import SqlBackend.Dialect.Builtin
import SqlBackend.Proofs.Connection.Target
import SqlBackend.Proofs.Flush.Attempt

/-!
# Flushes through a connection of their own

A flusher that is made from settings opens a connection for every flush. What is opened is handed over
to the flush only when the greeting went well, and from then on the flush closes it whatever happens:
`ownCalls` is the list of calls. So `Script.obtained`, which counts the connections or the cursors
that the driver gave out, agrees with the number of closing calls, except for one connection:
that of SQLite is left open when its greeting fails, `connection_left_open_after_greeting`.
-/

namespace SqlBackend

namespace Call

/-- Whether the call asks for a connection. -/
def isConnect : Call → Bool
  | .connect _ => true
  | _ => false

/-- Whether the call asks for a cursor. -/
def isCursor : Call → Bool
  | .cursor => true
  | .serverCursor => true
  | _ => false

/-- Whether the call closes a cursor. -/
def isCloseCursor : Call → Bool
  | .closeCursor => true
  | _ => false

theorem eq_sleep_of_isSleep {c : Call} (h : c.isSleep = true) : ∃ seconds, c = .sleep seconds := by
  cases c with
  | sleep seconds => exact ⟨seconds, rfl⟩
  | _ => cases h

end Call

namespace Script

/-- How often the driver gave out what some of the calls ask for. The answer to such a call does not
depend on the statements that were run before it. -/
def obtained (script : Script) (asks : Call → Bool) (calls : List Call) : Nat :=
  calls.countP fun c => asks c && (script.answer 0 c).isNone

theorem pending_extend_eq_drop (script : Script) (world : World) (made : List Call)
    (records : List Record) :
    script.pending (world.extend made records) =
      (script.pending world).drop (made.countP Call.isExecute) := by
  rw [pending, pending, World.executed_extend, List.drop_drop]

end Script

namespace Flush

open SqlBackend.Action

/-- The calls of opening a connection: it is greeted if it was obtained. -/
def openingCalls (engine : Engine) (script : Script) (target : Target) : List Call :=
  .connect target :: match script.connect with
    | some _ => []
    | none => engine.greetingCalls

/-- The error that opening a connection ends with. -/
def openingError (engine : Engine) (script : Script) (world : World) : Option DriverError :=
  script.connect.or (engine.greetingError script world)

/-- What comes of the statements that run on a connection once it is open. -/
def ownAnswers (engine : Engine) (script : Script) (world : World) : List (Option DriverError) :=
  script.pending (world.extend (openingCalls engine script .unnamed) [])

/-- The calls of a flush through a connection that it opens itself. -/
def ownCalls (engine : Engine) (statements : List String) (script : Script) (world : World)
    (target : Target) : List Call :=
  openingCalls engine script target ++ match openingError engine script world with
    | some _ => []
    | none =>
        cursorCalls statements script (ownAnswers engine script world) ++ [.commit, .close]

/-- The error that a flush through a connection of its own ends with. -/
def ownError (engine : Engine) (statements : List String) (script : Script) (world : World) :
    Option DriverError :=
  match openingError engine script world with
  | some error => some error
  | none => (closingInterrupt script).or
      (script.commit.or (cursorError statements script (ownAnswers engine script world)))

/-- The records of a flush through an open connection of its own. -/
def ownRecords (engine : Engine) (script : Script) (world : World) : List Record :=
  match openingError engine script world with
  | some _ => []
  | none => closingRecords script

/-- What is counted without the statements is counted on the cursor's opening and closing. -/
theorem countP_cursorCalls {p : Call → Bool} (h : ∀ statement, p (.execute statement) = false)
    (statements : List String) (script : Script) (answers : List (Option DriverError)) :
    (cursorCalls statements script answers).countP p =
      [Call.cursor].countP p + if script.cursor.isNone then [Call.closeCursor].countP p else 0 := by
  have hstatements : ((reached statements answers).map Call.execute).countP p = 0 := by
    rw [List.countP_eq_zero]
    intro c hc
    obtain ⟨statement, -, rfl⟩ := List.mem_map.mp hc
    simp [h statement]
  rw [cursorCalls, ← List.singleton_append, List.countP_append]
  cases script.cursor with
  | some error => rfl
  | none =>
      rw [List.countP_append, hstatements]
      simp

theorem countP_openingCalls {p : Call → Bool} (h : ∀ statement, p (.execute statement) = false)
    (engine : Engine) (script : Script) (target : Target) :
    (openingCalls engine script target).countP p = [Call.connect target].countP p := by
  have hgreeting : engine.greetingCalls.countP p = 0 := by
    cases engine with
    | sqlite => simp [Engine.greetingCalls, h]
    | mysql | oracle => rfl
  rw [openingCalls, ← List.singleton_append, List.countP_append]
  cases script.connect with
  | some error => rfl
  | none => rw [hgreeting, Nat.add_zero]

variable (engine : Engine) (statements : List String) (script : Script) (world : World)
  (target : Target)

theorem countP_ownCalls {p : Call → Bool} (h : ∀ statement, p (.execute statement) = false) :
    (ownCalls engine statements script world target).countP p =
      [Call.connect target].countP p +
        if (openingError engine script world).isSome then 0
        else ([Call.cursor].countP p + if script.cursor.isNone then [Call.closeCursor].countP p else 0)
          + [Call.commit, Call.close].countP p := by
  rw [ownCalls, List.countP_append, countP_openingCalls h]
  cases openingError engine script world with
  | some error => rfl
  | none =>
      rw [List.countP_append, countP_cursorCalls h]
      rfl

theorem countP_isConnect_ownCalls :
    (ownCalls engine statements script world target).countP Call.isConnect = 1 := by
  rw [countP_ownCalls _ _ _ _ _ (fun _ => rfl)]
  simp [Call.isConnect]

/-- Every cursor that was obtained is closed. -/
theorem countP_isCloseCursor_ownCalls :
    (ownCalls engine statements script world target).countP Call.isCloseCursor =
      script.obtained Call.isCursor (ownCalls engine statements script world target) := by
  rw [Script.obtained, countP_ownCalls _ _ _ _ _ (fun _ => rfl),
    countP_ownCalls _ _ _ _ _ (fun _ => rfl)]
  cases hcursor : script.cursor with
  | some error => simp [Call.isCloseCursor, Call.isCursor, Script.answer, hcursor]
  | none => simp [Call.isCloseCursor, Call.isCursor, Script.answer, hcursor]

/-- A connection that was obtained is closed, unless its greeting failed. -/
theorem countP_isClose_ownCalls :
    (ownCalls engine statements script world target).countP Call.isClose =
      if (engine.greetingError script world).isSome then 0
      else script.obtained Call.isConnect (ownCalls engine statements script world target) := by
  rw [Script.obtained, countP_ownCalls _ _ _ _ _ (fun _ => rfl),
    countP_ownCalls _ _ _ _ _ (fun _ => rfl), openingError]
  cases hconnect : script.connect with
  | some error => simp [Call.isClose, Call.isConnect, Script.answer, hconnect]
  | none =>
      cases hgreeting : engine.greetingError script world with
      | some error => simp [Call.isClose]
      | none => simp [Call.isClose, Call.isConnect, Script.answer, hconnect]

/-- Only one call opens a connection. -/
theorem eq_of_mem_openingCalls {engine : Engine} {script : Script} {target other : Target}
    (h : Call.connect other ∈ openingCalls engine script target) : other = target := by
  rcases List.mem_cons.mp h with heq | hmem
  · cases heq
    rfl
  · cases hconnect : script.connect with
    | some error =>
        rw [hconnect] at hmem
        cases hmem
    | none =>
        rw [hconnect] at hmem
        cases engine with
        | sqlite => simp [Engine.greetingCalls] at hmem
        | mysql | oracle => cases hmem

theorem eq_of_mem_ownCalls {engine : Engine} {statements : List String} {script : Script}
    {world : World} {target other : Target}
    (h : Call.connect other ∈ ownCalls engine statements script world target) : other = target := by
  rcases List.mem_append.mp h with hmem | hmem
  · exact eq_of_mem_openingCalls hmem
  · cases herror : openingError engine script world with
    | some error =>
        rw [herror] at hmem
        cases hmem
    | none =>
        have hcursor := @countP_cursorCalls Call.isConnect (fun _ => rfl) statements script
          (ownAnswers engine script world)
        have hnone : (cursorCalls statements script (ownAnswers engine script world) ++
            [Call.commit, Call.close]).countP Call.isConnect = 0 := by
          rw [List.countP_append, hcursor]
          simp [Call.isConnect]
        rw [herror] at hmem
        exact absurd rfl (List.countP_eq_zero.mp hnone (.connect other) hmem)

/-- What a connection was opened with does not matter for the statements that are run on it. -/
theorem pending_openingCalls (records : List Record) :
    script.pending (world.extend (openingCalls engine script target) records) =
      ownAnswers engine script world := by
  rw [ownAnswers, Script.pending_extend_eq_drop, Script.pending_extend_eq_drop]
  rfl

theorem openingError_extend (records : List Record) :
    openingError engine script (world.extend [] records) = openingError engine script world := by
  rw [openingError, engine.greetingError_extend script world rfl, openingError]

theorem ownAnswers_extend (records : List Record) :
    ownAnswers engine script (world.extend [] records) = ownAnswers engine script world := by
  rw [ownAnswers, World.extend_extend, List.nil_append, pending_openingCalls]

end Flush

namespace Engine

open SqlBackend.Action SqlBackend.Flush

/-- Opening a connection ends as the driver answers. -/
theorem run_opening (engine : Engine) (target : Target) (script : Script) (world : World) :
    run (engine.opening target) script world =
      (endingWith (openingError engine script world),
        world.extend (openingCalls engine script target) []) := by
  have hconnect := run_connect target script world
  rw [opening, openingError, openingCalls]
  cases hc : script.connect with
  | some error =>
      rw [hc] at hconnect
      rw [run_bind_of_error hconnect]
      rfl
  | none =>
      rw [hc] at hconnect
      rw [run_bind_of_ok hconnect, run_greet, World.extend_extend,
        greetingError_extend engine script world rfl]
      rfl

section

variable {d : Dialect} {engine : Engine} (h : d.engine = some engine) {config : LooseConfig}
  {script : Script} {world : World}

include h

/-- Once its target is worked out, opening a connection ends as the driver answers. -/
theorem run_connect_of_target {target : Target}
    (htarget : (run (engine.target config) script world).1 = .ok target) :
    ∃ records, run (d.connect config) script world =
      (endingWith (openingError engine script world),
        world.extend (openingCalls engine script target) records) := by
  obtain ⟨outcome, records, hrun⟩ := engine.silent_target config script world
  rw [hrun] at htarget
  obtain rfl : outcome = .ok target := htarget
  refine ⟨records, ?_⟩
  rw [d.connect_eq h, run_bind_of_ok hrun, run_opening, World.extend_extend, openingError_extend,
    List.append_nil]
  rfl

theorem calls_connect_of_target {target : Target}
    (htarget : (run (engine.target config) script world).1 = .ok target) :
    (run (d.connect config) script world).2.calls =
      world.calls ++ openingCalls engine script target := by
  obtain ⟨records, hrun⟩ := run_connect_of_target h htarget
  rw [hrun, World.calls_extend]

/-- Without a target no call is made. -/
theorem run_connect_of_target_error {fault : Fault}
    (htarget : (run (engine.target config) script world).1 = .error fault) :
    ∃ records, run (d.connect config) script world = (.error fault, world.extend [] records) := by
  obtain ⟨outcome, records, hrun⟩ := engine.silent_target config script world
  rw [hrun] at htarget
  obtain rfl : outcome = .error fault := htarget
  exact ⟨records, by rw [d.connect_eq h, run_bind_of_error hrun]⟩

end

end Engine

namespace Flush

open SqlBackend.Action

/-- A flush through a connection that it opens itself. -/
def ownFlush (engine : Engine) (statements : List String) (target : Target) : Action Unit := do
  engine.opening target
  flushThrough statements

theorem run_ownFlush (engine : Engine) (statements : List String) (target : Target)
    (script : Script) (world : World) :
    run (ownFlush engine statements target) script world =
      (endingWith (ownError engine statements script world),
        world.extend (ownCalls engine statements script world target)
          (ownRecords engine script world)) := by
  have hopen := engine.run_opening target script world
  rw [ownFlush, ownError, ownCalls, ownRecords]
  cases herror : openingError engine script world with
  | some error =>
      rw [herror] at hopen
      rw [run_bind_of_error hopen, List.append_nil]
      rfl
  | none =>
      rw [herror] at hopen
      rw [run_bind_of_ok hopen, run_flushThrough, World.extend_extend, pending_openingCalls]
      rfl

end Flush

namespace Flusher

open SqlBackend.Action SqlBackend.Flush

theorem eq_of_ofSettings {d : Dialect} {settings : LooseSettings} {overrides : Table String Value}
    {script : Script} {world later : World} {f : Flusher}
    (h : run (ofSettings d settings overrides) script world = (.ok f, later)) :
    ∃ config wait, f = ⟨d, .configured config, wait⟩ := by
  rw [ofSettings, run_bind_eq_ok_iff rfl] at h
  obtain ⟨config, -, h⟩ := h
  obtain ⟨wait, -, h⟩ := (run_bind_eq_ok_iff rfl).mp h
  cases h
  exact ⟨config, wait, rfl⟩

variable {d : Dialect} {engine : Engine}

/-- An attempt works out its target, and what follows depends on the driver only. -/
theorem attempt_eq (h : d.engine = some engine) (config : PoolConfig) (wait : Wait) :
    attempt ⟨d, .configured config, wait⟩ =
      engine.target config.loose >>= ownFlush engine d.flushStatements := by
  show d.connect config.loose >>= (fun _ => flushThrough d.flushStatements) = _
  rw [d.connect_eq h, bind_assoc]
  rfl

theorem run_attempt_of_target (h : d.engine = some engine) {config : PoolConfig} (wait : Wait)
    {script : Script} {world : World} {target : Target} {records : List Record}
    (htarget : run (engine.target config.loose) script world =
      (.ok target, world.extend [] records)) :
    run (attempt ⟨d, .configured config, wait⟩) script world =
      (endingWith (ownError engine d.flushStatements script world),
        world.extend (ownCalls engine d.flushStatements script world target)
          (records ++ ownRecords engine script world)) := by
  rw [attempt_eq h, run_bind_of_ok htarget, run_ownFlush, World.extend_extend, ownError, ownCalls,
    ownRecords, openingError_extend, ownAnswers_extend]
  rfl

/-- An attempt is refused before any call, or else it makes the calls of `ownCalls`. -/
theorem calls_attempt_configured (h : d.engine = some engine) (config : PoolConfig) (wait : Wait)
    (script : Script) (world : World) :
    ∃ made, (run (attempt ⟨d, .configured config, wait⟩) script world).2.calls =
        world.calls ++ made ∧
      (made = [] ∨ ∃ target, (run (engine.target config.loose) script world).1 = .ok target ∧
        made = ownCalls engine d.flushStatements script world target) := by
  obtain ⟨outcome, records, htarget⟩ := engine.silent_target config.loose script world
  cases outcome with
  | error fault =>
      rw [attempt_eq h, run_bind_of_error htarget]
      exact ⟨[], World.calls_extend _ _ _, .inl rfl⟩
  | ok target =>
      rw [run_attempt_of_target h wait htarget, htarget]
      exact ⟨_, World.calls_extend _ _ _, .inr ⟨target, rfl, rfl⟩⟩

/-- After its attempt a flush makes no calls but waits. -/
theorem calls_flush (f : Flusher) (script : Script) (world : World) :
    ∃ waits, (run f.flush script world).2.calls =
        (run f.attempt script { world with locked := true }).2.calls ++ waits ∧
      ∀ c ∈ waits, c.isSleep = true := by
  rcases hattempt : run f.attempt script { world with locked := true } with ⟨outcome, later⟩
  cases outcome with
  | ok _ =>
      rw [run_flush_of_ok hattempt]
      exact ⟨[], rfl, by simp⟩
  | error fault =>
      cases hi : fault.isInterrupt with
      | true =>
          rw [run_flush_of_interrupt hattempt hi]
          exact ⟨[], (List.append_nil _).symm, by simp⟩
      | false =>
          rw [run_flush_of_error hattempt hi]
          exact ⟨[.sleep f.wait.given], rfl, by simp⟩

/-- A flusher that is made from settings opens one connection at most, and the flush closes it once
whatever fails, except that a connection whose greeting fails is never closed. Every cursor is closed
once. -/
theorem flush_closes_unless_greeting_fails {engine : Engine} {settings : LooseSettings}
    {overrides : Table String Value} {f : Flusher} {script : Script} {before after : World}
    (made : run (ofSettings engine.dialect settings overrides) script before = (.ok f, after)) :
    ∀ (script : Script) (world : World), ∃ calls,
      (run f.flush script world).2.calls = world.calls ++ calls ∧
        calls.countP Call.isConnect ≤ 1 ∧
        (calls.countP Call.isClose =
          if (engine.greetingError script world).isSome then 0
          else script.obtained Call.isConnect calls) ∧
        calls.countP Call.isCloseCursor = script.obtained Call.isCursor calls := by
  intro script world
  obtain ⟨config, wait, rfl⟩ := eq_of_ofSettings made
  obtain ⟨calls, hcalls, hmade⟩ := calls_attempt_configured engine.engine_dialect config wait script
    { world with locked := true }
  obtain ⟨waits, hflush, hwaits⟩ := calls_flush ⟨engine.dialect, .configured config, wait⟩ script world
  refine ⟨calls ++ waits, ?_, ?_⟩
  · rw [hflush, hcalls, List.append_assoc]
  have hidle {p : Call → Bool} (h : ∀ seconds, p (.sleep seconds) = false) :
      (calls ++ waits).countP p = calls.countP p := by
    have hnone : waits.countP p = 0 := by
      rw [List.countP_eq_zero]
      intro c hc
      obtain ⟨seconds, rfl⟩ := Call.eq_sleep_of_isSleep (hwaits c hc)
      simp [h seconds]
    rw [List.countP_append, hnone, Nat.add_zero]
  rw [Script.obtained, Script.obtained, hidle fun _ => rfl, hidle fun _ => rfl, hidle fun _ => rfl,
    hidle fun _ => rfl, hidle fun _ => rfl]
  rcases hmade with rfl | ⟨target, -, rfl⟩
  · exact ⟨Nat.zero_le 1, (ite_self 0).symm, rfl⟩
  · refine ⟨?_, ?_, ?_⟩
    · exact Nat.le_of_eq (countP_isConnect_ownCalls engine _ script _ target)
    · exact countP_isClose_ownCalls engine _ script { world with locked := true } target
    · exact countP_isCloseCursor_ownCalls engine _ script _ target

/-- The configuration of a database file by settings that say nothing. -/
def defaultFile : PoolConfig where
  driver := "sqlite3"
  rootUrl := "sqlite:///"
  connectionUrl := "sqlite:///store"
  properties := .ofPairs
    [("timeout", "5"), ("check_same_thread", "false"), ("user", "store"), ("password", "")]

/-- The flusher that settings make that say nothing. -/
def fileFlusher : Flusher :=
  ⟨.sqlite, .configured defaultFile, ⟨defaultWait, threeSeconds.amount⟩⟩

/-- What the file is opened with. -/
def fileTarget : Target :=
  .sqlite (some "store") [("timeout", .int 5), ("check_same_thread", .bool false)]

/-- A driver on which the flushing itself fails, and then the commit and the closing. -/
def brokenAfterGreeting : Script where
  execute := [none, some ⟨.ordinary, "statement", [], []⟩]
  commit := some ⟨.interrupt, "commit", [], []⟩
  close := some ⟨.system, "connection", [], []⟩

/-- A driver that refuses the greeting. -/
def brokenGreeting : Script where
  execute := [some ⟨.ordinary, "greeting", [], []⟩]

theorem ofSettings_eq_fileFlusher (script : Script) : ∃ later,
    run (ofSettings Engine.sqlite.dialect ({} : Settings).loose .empty) script {} =
      (.ok fileFlusher, later) :=
  ⟨_, rfl⟩

theorem run_attempt_fileFlusher {script : Script} (h : script.driverMissing = false) :
    ∃ records, run fileFlusher.attempt script { locked := true } =
      (endingWith (ownError .sqlite fileFlusher.dialect.flushStatements script { locked := true }),
        ({ locked := true } : World).extend
          (ownCalls .sqlite fileFlusher.dialect.flushStatements script { locked := true } fileTarget)
          records) := by
  obtain ⟨outcome, records, hrun⟩ :=
    Engine.silent_target .sqlite defaultFile.loose script { locked := true }
  have hdriver := run_requireDriver script { locked := true }
  rw [h] at hdriver
  obtain rfl : Except.ok fileTarget = outcome := by
    have houtcome : (run (Engine.sqlite.target defaultFile.loose) script { locked := true }).1 =
        outcome := congrArg Prod.fst hrun
    rw [← houtcome]
    show _ = (run (requireDriver >>= fun _ => _) script _).1
    rw [run_bind_of_ok hdriver]
    rfl
  exact ⟨_, @run_attempt_of_target .sqlite .sqlite rfl _ _ _ _ _ _ hrun⟩

theorem flush_closes_when_brokenAfterGreeting : ∃ later,
    run (ofSettings Engine.sqlite.dialect ({} : Settings).loose .empty) brokenAfterGreeting {} =
        (.ok fileFlusher, later) ∧
      (run fileFlusher.flush brokenAfterGreeting {}).2.calls =
        [.connect fileTarget, .execute "PRAGMA foreign_keys = ON", .cursor,
          .execute "PRAGMA wal_checkpoint(FULL)", .closeCursor, .commit, .close] ∧
      (run fileFlusher.flush brokenAfterGreeting {}).2.calls.countP Call.isClose = 1 ∧
      (run fileFlusher.flush brokenAfterGreeting {}).2.calls.countP Call.isCloseCursor = 1 := by
  obtain ⟨later, made⟩ := ofSettings_eq_fileFlusher brokenAfterGreeting
  obtain ⟨records, hattempt⟩ := @run_attempt_fileFlusher brokenAfterGreeting rfl
  have hcalls : (run fileFlusher.flush brokenAfterGreeting {}).2.calls =
      [.connect fileTarget, .execute "PRAGMA foreign_keys = ON", .cursor,
        .execute "PRAGMA wal_checkpoint(FULL)", .closeCursor, .commit, .close] := by
    rw [run_flush_of_interrupt hattempt rfl]
    rfl
  obtain ⟨calls, hmade, -, hclose, hcursor⟩ :=
    flush_closes_unless_greeting_fails made brokenAfterGreeting {}
  obtain rfl : _ = calls := hmade
  refine ⟨later, made, hcalls, ?_, ?_⟩
  · rw [hclose, hcalls]
    rfl
  · rw [hcursor, hcalls]
    rfl

/-- On a driver that refuses the greeting, the flush waits with the connection open. -/
theorem run_flush_brokenGreeting : ∃ records,
    run fileFlusher.flush brokenGreeting {} = (.ok (),
      { calls := [.connect fileTarget, .execute "PRAGMA foreign_keys = ON", .sleep defaultWait]
        records := records }) := by
  obtain ⟨records, hattempt⟩ := @run_attempt_fileFlusher brokenGreeting rfl
  exact ⟨_, @run_flush_of_error fileFlusher brokenGreeting {} _ _ hattempt rfl⟩

/-- A connection may be lost: it is obtained, its greeting fails, and nothing closes it before the
flush returns. -/
theorem connection_left_open_after_greeting : ∃ later,
    run (ofSettings Engine.sqlite.dialect ({} : Settings).loose .empty) brokenGreeting {} =
        (.ok fileFlusher, later) ∧
      (run fileFlusher.flush brokenGreeting {}).1 = .ok () ∧
      (run fileFlusher.flush brokenGreeting {}).2.calls =
        [.connect fileTarget, .execute "PRAGMA foreign_keys = ON", .sleep defaultWait] ∧
      brokenGreeting.obtained Call.isConnect (run fileFlusher.flush brokenGreeting {}).2.calls = 1 ∧
      (run fileFlusher.flush brokenGreeting {}).2.calls.countP Call.isClose = 0 := by
  obtain ⟨later, made⟩ := ofSettings_eq_fileFlusher brokenGreeting
  obtain ⟨records, hflush⟩ := run_flush_brokenGreeting
  rw [hflush]
  exact ⟨later, made, rfl, rfl, rfl, rfl⟩

end Flusher

end SqlBackend
