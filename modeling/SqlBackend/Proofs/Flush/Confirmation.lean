import SqlBackend.Proofs.Action.Clock
import SqlBackend.Proofs.Flush.Handover
import SqlBackend.Proofs.Flush.Release
import SqlBackend.Proofs.Flush.Verdict
import SqlBackend.Proofs.Flush.Warning

/-!
# When a flush is confirmed

A flush is confirmed if everything but the closing of its connection succeeded. Of several errors
that keep it from that the last one counts, which is the commit's if the commit failed, or else that
of closing the cursor, or else the one that stopped the work before: `unconfirmedBy`. As long as no
interrupt is raised, a flush warns and waits exactly if there is such a cause, `Settles`.

The wait comes after everything else, outside of what holds failures back. So a clock that refuses the
wait ends the flush with its refusal.
-/

namespace SqlBackend

namespace Script

/-- No call raises an interrupt. -/
def Calm (script : Script) (n : Nat) (calls : List Call) : Prop :=
  ∀ failure ∈ script.failures n calls, failure.isInterrupt = false

/-- The last failure of a call other than the closing of the connection. -/
def lastFailure (script : Script) (n : Nat) (calls : List Call) : Option Failure :=
  ((script.failures n calls).filter fun failure => !failure.call.isClose).getLast?

/-- As long as no interrupt is raised, the failures that count are those of all calls but the closing
of the connection. -/
theorem Calm.verdict_eq {script : Script} {n : Nat} {calls : List Call} (calm : script.Calm n calls) :
    script.verdict n calls = script.lastFailure n calls := by
  rw [verdict, lastFailure]
  congr 1
  apply List.filter_congr
  intro failure h
  rw [Failure.isQuiet, calm failure h]
  simp

end Script

namespace Flush

open SqlBackend.Action

/-- The error that leaves a flush unconfirmed. -/
def unconfirmedBy (statements : List String) (script : Script)
    (answers : List (Option DriverError)) : Option DriverError :=
  match script.connect with
  | some error => some error
  | none => script.commit.or (cursorError statements script answers)

/-- An attempt ends with an interrupt out of closing the connection, or else as it is confirmed. -/
theorem attemptError_eq_unconfirmedBy {statements : List String} {script : Script}
    {answers : List (Option DriverError)}
    (h : ∀ error, attemptError statements script answers = some error →
      (Fault.raised error).isInterrupt = false) :
    attemptError statements script answers = unconfirmedBy statements script answers := by
  cases hconnect : script.connect with
  | some error => rw [attemptError, unconfirmedBy, hconnect]
  | none =>
      rw [attemptError, hconnect] at h
      rw [attemptError, unconfirmedBy, hconnect]
      cases hclosing : closingInterrupt script with
      | none => simp
      | some error =>
          rw [hclosing] at h
          have hinterrupt : (Fault.raised error).isInterrupt = true :=
            (Option.filter_eq_some_iff.mp hclosing).2
          have hordinary := h error rfl
          rw [hinterrupt] at hordinary
          cases hordinary

/-- What kept an attempt from being confirmed. -/
def causeOf : Except Fault Unit → Option Fault
  | .ok () => none
  | .error fault => some fault

theorem causeOf_endingWith (error : Option DriverError) :
    causeOf (endingWith error) = error.map Fault.raised := by
  cases error <;> rfl

/-- What a flush shows after the calls `made`, if `cause` kept them from confirming it. It waits once,
last of all and for as long as it was told, and ends as the clock answers; and it writes one warning,
which holds the cause. Without a cause it returns, and neither waits nor warns. -/
structure Settles (title : String) (given : Value) (script : Script) (world : World)
    (made : List Call) (cause : Option Fault) (result : Except Fault Unit × World) : Prop where
  outcome : result.1 = endingWith (cause.bind fun _ => script.refusal given)
  calls : result.2.calls =
    world.calls ++ made ++ (cause.map fun _ => Call.sleep given).toList
  warnings : result.2.warnings = world.warnings ++ (cause.map fun fault =>
    { level := .warning
      origin := .flush
      message := "ignoring error while forcing " ++ title ++ " to flush its log to disk"
      cause := some fault : Record }).toList

end Flush

namespace Flusher

open SqlBackend.Action SqlBackend.Flush

theorem given_of_ofValue {given : Value} {wait : Wait} (h : Wait.ofValue given = .ok wait) :
    wait.given = given := by
  unfold Wait.ofValue at h
  cases hseconds : secondsOf given with
  | error fault =>
      rw [hseconds] at h
      cases h
  | ok seconds =>
      rw [hseconds] at h
      change (if seconds.isFinite && !seconds.isNegative then _ else _) = _ at h
      split at h
      · cases h
        rfl
      · cases h

theorem eq_of_ofWait {d : Dialect} {given : Value} {f : Flusher} (h : ofWait d given = .ok f) :
    ∃ wait, f = ⟨d, .supplied, wait⟩ ∧ wait.given = given := by
  unfold ofWait at h
  cases hwait : Wait.ofValue given with
  | error fault =>
      rw [hwait] at h
      cases h
  | ok wait =>
      rw [hwait] at h
      cases h
      exact ⟨wait, rfl, given_of_ofValue hwait⟩

/-- A flush settles by what its attempt ended with, unless that is an interrupt. -/
theorem settles_of_attempt {f : Flusher} {script : Script} {world later : World} {made : List Call}
    {outcome : Except Fault Unit}
    (h : run f.attempt script { world with locked := true } = (outcome, later))
    (hcalls : later.calls = world.calls ++ made)
    (ordinary : ∀ fault, outcome = .error fault → fault.isInterrupt = false) :
    Settles f.dialect.title f.wait.given script world made (causeOf outcome)
      (run f.flush script world) := by
  have hwarnings : later.warnings = world.warnings := by
    have hquiet := f.neverWarns_attempt script { world with locked := true }
    rw [h] at hquiet
    exact hquiet
  cases outcome with
  | ok _ =>
      rw [run_flush_of_ok h]
      constructor
      · rfl
      · simp [hcalls, causeOf]
      · simpa [World.warnings, confirmedRecord, flushRecord, causeOf] using hwarnings
  | error fault =>
      rw [run_flush_of_error h (ordinary fault rfl)]
      constructor
      · rfl
      · simp [hcalls, causeOf]
      · simpa [World.warnings, failureRecord, waitRecord, flushRecord, causeOf] using hwarnings

/-- As long as no interrupt is raised the last failure is the cause, and a cause that is no failure
comes before all calls. -/
theorem exists_settles_of_calm (f : Flusher) (script : Script) (world : World) :
    ∃ made cause,
      (run f.attempt script { world with locked := true }).2.calls = world.calls ++ made ∧
        (run f.flush script world).2.driverCalls = world.driverCalls ++ made ∧
        (script.Calm world.executed made →
          Settles f.dialect.title f.wait.given script world made cause (run f.flush script world) ∧
            (∀ failure, script.lastFailure world.executed made = some failure →
              cause = some (.raised failure.error)) ∧
            (script.lastFailure world.executed made = none → cause = none ∨ made = [])) := by
  obtain ⟨made, hcalls, hsleep, hagrees⟩ :=
    f.refusesFirst_attempt script { world with locked := true }
  obtain ⟨waits, hflush, hwaits⟩ := calls_flush f script world
  have hdriver : (run f.flush script world).2.driverCalls = world.driverCalls ++ made := by
    have hmade : made.filter (fun c => !c.isSleep) = made := by
      rw [List.filter_eq_self]
      intro c hc
      rw [hsleep c hc]
      rfl
    have hnone : waits.filter (fun c => !c.isSleep) = [] := by
      rw [List.filter_eq_nil_iff]
      intro c hc
      simp [hwaits c hc]
    rw [World.driverCalls, hflush, hcalls, List.filter_append, List.filter_append, hmade, hnone,
      List.append_nil]
    rfl
  rcases hattempt : run f.attempt script { world with locked := true } with ⟨outcome, later⟩
  rw [hattempt] at hcalls hagrees
  refine ⟨made, causeOf outcome, hcalls, hdriver, ?_⟩
  intro calm
  change Agrees _ (script.verdict world.executed made) outcome at hagrees
  cases hverdict : script.verdict world.executed made with
  | some failure =>
      rw [hverdict] at hagrees
      cases hagrees
      have hordinary := calm failure (Script.mem_failures_of_verdict hverdict)
      refine ⟨settles_of_attempt hattempt hcalls ?_, ?_, ?_⟩
      · rintro fault ⟨⟩
        exact hordinary
      · intro other hother
        rw [← calm.verdict_eq, hverdict] at hother
        cases hother
        rfl
      · intro hnone
        rw [← calm.verdict_eq, hverdict] at hnone
        cases hnone
  | none =>
      rw [hverdict] at hagrees
      refine ⟨settles_of_attempt hattempt hcalls ?_, ?_, ?_⟩
      · rintro fault rfl
        exact hagrees.1
      · intro other hother
        rw [← calm.verdict_eq, hverdict] at hother
        cases hother
      · intro _
        cases outcome with
        | ok _ => exact .inl rfl
        | error fault => exact .inr hagrees.2

theorem given_of_ofSettings {d : Dialect} {settings : LooseSettings}
    {overrides : Table String Value} {script : Script} {world later : World} {f : Flusher}
    (h : run (ofSettings d settings overrides) script world = (.ok f, later)) :
    f.dialect = d ∧ f.wait.given = settings.fallbackWait := by
  rw [ofSettings, run_bind_eq_ok_iff rfl] at h
  obtain ⟨config, -, h⟩ := h
  obtain ⟨wait, hwait, h⟩ := (run_bind_eq_ok_iff rfl).mp h
  cases h
  exact ⟨rfl, given_of_ofValue hwait⟩

/-- A flush through a supplied connection settles by the error that leaves it unconfirmed. -/
theorem settles_supplied {d : Dialect} {given : Value} {f : Flusher} {script : Script} {world : World}
    (accepted : ofWait d given = .ok f)
    (calm : script.Calm world.executed
      (flushCalls d.flushStatements script (script.pending world))) :
    let made := flushCalls d.flushStatements script (script.pending world)
    let cause := unconfirmedBy d.flushStatements script (script.pending world)
    Settles d.title given script world made (cause.map Fault.raised) (run f.flush script world) ∧
      cause = (script.lastFailure world.executed made).map Failure.error := by
  intro made cause
  obtain ⟨wait, rfl, rfl⟩ := eq_of_ofWait accepted
  have hattempt := run_attempt_supplied d wait script world
  have hverdict := attemptError_eq_verdict d wait script world
  have hordinary : ∀ error,
      attemptError d.flushStatements script (script.pending world) = some error →
        (Fault.raised error).isInterrupt = false := by
    intro error herror
    rw [hverdict] at herror
    obtain ⟨failure, hfailure, rfl⟩ := Option.map_eq_some_iff.mp herror
    exact calm failure (Script.mem_failures_of_verdict hfailure)
  have hcause := attemptError_eq_unconfirmedBy hordinary
  refine ⟨?_, ?_⟩
  · have hsettles := settles_of_attempt hattempt (World.calls_extend _ _ _) fun fault hfault => by
      cases herror : attemptError d.flushStatements script (script.pending world) with
      | none =>
          rw [herror] at hfault
          cases hfault
      | some error =>
          rw [herror] at hfault
          cases hfault
          exact hordinary error herror
    rw [causeOf_endingWith, hcause] at hsettles
    exact hsettles
  · rw [← calm.verdict_eq, ← hverdict, hcause]

/-- As long as no call raises an interrupt, a flush warns and waits exactly if something but the
closing of its connection failed, after it has made all its other calls, and it ends as the clock
answers the wait. So it does through a supplied connection, where nothing but the driver can fail, and
through one that it opens itself, where the opening may be refused before any call. That one is closed
before the wait unless its greeting failed. The clock of the platform takes waits whose nanoseconds it
can count, and no others. -/
theorem flush_waits_iff_unconfirmed (d : Dialect) (given : Value) (script : Script)
    (world : World) :
    (∀ f, ofWait d given = .ok f →
      let made := flushCalls d.flushStatements script (script.pending world)
      let cause := unconfirmedBy d.flushStatements script (script.pending world)
      script.Calm world.executed made →
        Settles d.title given script world made (cause.map Fault.raised) (run f.flush script world) ∧
          cause = (script.lastFailure world.executed made).map Failure.error) ∧
    (∀ (settings : LooseSettings) (overrides : Table String Value) (first : Script)
        (before after : World) (f : Flusher), settings.fallbackWait = given →
      run (ofSettings d settings overrides) first before = (.ok f, after) →
        ∃ made cause, (run f.flush script world).2.driverCalls = world.driverCalls ++ made ∧
          (script.Calm world.executed made →
            Settles d.title given script world made cause (run f.flush script world) ∧
              (∀ failure, script.lastFailure world.executed made = some failure →
                cause = some (.raised failure.error)) ∧
              (script.lastFailure world.executed made = none → cause = none ∨ made = [])) ∧
          ∀ engine, d.engine = some engine → made.countP Call.isClose =
            if (engine.greetingError script world).isSome then 0
            else script.obtained Call.isConnect made) ∧
    (script.clock = .nanoseconds → (script.refusal given = none ↔ given.FitsCounter)) := by
  refine ⟨fun f accepted => settles_supplied accepted, ?_, ?_⟩
  · intro settings overrides first before after f hgiven hmade
    obtain ⟨hdialect, hwait⟩ := given_of_ofSettings hmade
    obtain ⟨config, wait, rfl⟩ := eq_of_ofSettings hmade
    obtain ⟨made, cause, hcalls, hdriver, hsettles⟩ :=
      exists_settles_of_calm ⟨d, .configured config, wait⟩ script world
    rw [hwait, hgiven] at hsettles
    refine ⟨made, cause, hdriver, hsettles, ?_⟩
    intro engine hengine
    obtain ⟨made', hcalls', hmade'⟩ :=
      calls_attempt_configured hengine config wait script { world with locked := true }
    obtain rfl : made = made' := List.append_cancel_left (hcalls.symm.trans hcalls')
    rcases hmade' with rfl | ⟨target, -, rfl⟩
    · exact (ite_self 0).symm
    · exact countP_isClose_ownCalls engine _ script { world with locked := true } target
  · intro hclock
    exact Script.refusal_eq_none_iff hclock given

/-- A driver on which a statement fails, and after it the closing of the cursor and of the connection,
beside the clock of the platform. -/
def brokenCursor : Script where
  execute := [some ⟨.ordinary, "statement", [], []⟩]
  closeCursor := some ⟨.system, "cursor", [], []⟩
  close := some ⟨.ordinary, "connection", [], []⟩
  clock := .nanoseconds

/-- A driver that can be greeted and cannot commit. -/
def brokenCommit : Script where
  commit := some ⟨.ordinary, "commit", [.text "disk full"], []⟩

theorem driverCalls_flush_brokenCommit :
    (run fileFlusher.flush brokenCommit {}).2.driverCalls =
      [.connect fileTarget, .execute "PRAGMA foreign_keys = ON", .cursor,
        .execute "PRAGMA wal_checkpoint(FULL)", .closeCursor, .commit, .close] := by
  obtain ⟨records, hattempt⟩ := @run_attempt_fileFlusher brokenCommit rfl
  rw [@run_flush_of_error fileFlusher brokenCommit {} _ _ hattempt rfl]
  rfl

theorem flush_waits_on_brokenCursor :
    (∃ f, ofWait .oracle defaultWait = .ok f ∧
      brokenCursor.Calm 0
        (flushCalls ["ALTER SYSTEM CHECKPOINT"] brokenCursor brokenCursor.execute) ∧
      (run f.flush brokenCursor {}).1 = .ok () ∧
      (run f.flush brokenCursor {}).2.calls =
        [.request true, .connect .unnamed, .cursor, .execute "ALTER SYSTEM CHECKPOINT",
          .closeCursor, .commit, .close, .sleep defaultWait] ∧
      (run f.flush brokenCursor {}).2.warnings =
        [{ level := .warning
           origin := .flush
           message := "ignoring error while forcing Oracle Database 19c to flush its log to disk"
           cause := some (.raised ⟨.system, "cursor", [], []⟩) }]) ∧
    ∃ later, run (ofSettings .sqlite ({} : Settings).loose .empty) brokenCommit {} =
        (.ok fileFlusher, later) ∧
      (run fileFlusher.flush brokenCommit {}).1 = .ok () ∧
      (run fileFlusher.flush brokenCommit {}).2.calls =
        [.connect fileTarget, .execute "PRAGMA foreign_keys = ON", .cursor,
          .execute "PRAGMA wal_checkpoint(FULL)", .closeCursor, .commit, .close,
          .sleep defaultWait] ∧
      (run fileFlusher.flush brokenCommit {}).2.warnings =
        [{ level := .warning
           origin := .flush
           message := "ignoring error while forcing SQLite to flush its log to disk"
           cause := some (.raised ⟨.ordinary, "commit", [.text "disk full"], []⟩) }] := by
  constructor
  · have accepted : ofWait .oracle defaultWait =
        .ok ⟨.oracle, .supplied, ⟨defaultWait, threeSeconds.amount⟩⟩ := rfl
    have calm : brokenCursor.Calm 0
        (flushCalls ["ALTER SYSTEM CHECKPOINT"] brokenCursor brokenCursor.execute) := by
      unfold Script.Calm
      decide
    obtain ⟨hsupplied, -, hclock⟩ :=
      flush_waits_iff_unconfirmed .oracle defaultWait brokenCursor {}
    have hfits : defaultWait.FitsCounter := by
      norm_num [defaultWait, threeSeconds, Value.FitsCounter]
    obtain ⟨⟨houtcome, hcalls, hwarnings⟩, -⟩ := hsupplied _ accepted calm
    refine ⟨_, accepted, calm, ?_, hcalls, hwarnings⟩
    rw [houtcome]
    show endingWith (brokenCursor.refusal defaultWait) = .ok ()
    rw [(hclock rfl).mpr hfits, endingWith_none]
  · obtain ⟨later, made⟩ := ofSettings_eq_fileFlusher brokenCommit
    obtain ⟨-, hconfigured, -⟩ := flush_waits_iff_unconfirmed .sqlite defaultWait brokenCommit {}
    obtain ⟨calls, cause, hdriver, hsettles, -⟩ :=
      hconfigured ({} : Settings).loose .empty brokenCommit {} later fileFlusher rfl made
    obtain rfl : _ = calls := hdriver
    rw [driverCalls_flush_brokenCommit] at hsettles
    have calm : brokenCommit.Calm 0 [.connect fileTarget, .execute "PRAGMA foreign_keys = ON",
        .cursor, .execute "PRAGMA wal_checkpoint(FULL)", .closeCursor, .commit, .close] := by
      unfold Script.Calm
      decide
    obtain ⟨⟨houtcome, hcalls, hwarnings⟩, hcause, -⟩ := hsettles calm
    obtain rfl := hcause ⟨.commit, ⟨.ordinary, "commit", [.text "disk full"], []⟩⟩ rfl
    exact ⟨later, made, houtcome, hcalls, hwarnings⟩

/-- A driver that cannot be reached, beside the clock of the platform. -/
def unreachable : Script where
  connect := some ⟨.ordinary, "connect", [], []⟩
  clock := .nanoseconds

/-- A flush may end with a fault although no call raises an interrupt: a wait that is accepted is too
long for the clock. And it may wait before its connection is closed: that of a database file whose
greeting fails. -/
theorem wait_refused_or_before_release :
    (∃ f, ofWait .mysql (.int 10000000000) = .ok f ∧
      unreachable.Calm 0 (flushCalls Dialect.mysql.flushStatements unreachable []) ∧
      (run f.flush unreachable {}).1 = .error (.raised ⟨.ordinary, "clock",
        [.text "timestamp too large to convert to C _PyTime_t"], []⟩) ∧
      (run f.flush unreachable {}).2.calls =
        [.request true, .connect .unnamed, .sleep (.int 10000000000)]) ∧
    ∃ later, run (ofSettings .sqlite ({} : Settings).loose .empty) brokenGreeting {} =
        (.ok fileFlusher, later) ∧
      (run fileFlusher.flush brokenGreeting {}).2.calls =
        [.connect fileTarget, .execute "PRAGMA foreign_keys = ON", .sleep defaultWait] ∧
      brokenGreeting.Calm 0 (run fileFlusher.flush brokenGreeting {}).2.calls ∧
      brokenGreeting.obtained Call.isConnect (run fileFlusher.flush brokenGreeting {}).2.calls = 1 ∧
      (run fileFlusher.flush brokenGreeting {}).2.calls.countP Call.isClose = 0 := by
  constructor
  · have calm : unreachable.Calm 0 (flushCalls Dialect.mysql.flushStatements unreachable []) := by
      unfold Script.Calm
      decide
    have hseconds : Numeric.Binary64.ofInt? 10000000000 =
        some (.finite false 5242880000000000 (-19)) := by
      decide +kernel
    have accepted : ofWait .mysql (.int 10000000000) = .ok ⟨.mysql, .supplied,
        ⟨.int 10000000000, .finite false 5242880000000000 (-19)⟩⟩ := by
      rw [ofWait, Wait.ofValue, secondsOf, hseconds]
      rfl
    exact ⟨_, accepted, calm, rfl, rfl⟩
  · obtain ⟨later, made⟩ := ofSettings_eq_fileFlusher brokenGreeting
    obtain ⟨records, hflush⟩ := run_flush_brokenGreeting
    rw [hflush]
    have calm : brokenGreeting.Calm 0
        [.connect fileTarget, .execute "PRAGMA foreign_keys = ON", .sleep defaultWait] := by
      unfold Script.Calm
      decide
    exact ⟨later, made, rfl, calm, rfl, rfl⟩

end Flusher

end SqlBackend
