import SqlBackend.Proofs.Action.Trace

/-!
# What the driver answers

`Script.answer` says how a script answers a single call, and `Script.failures` reads off a list of
calls which of them failed. A later failure takes the place of an earlier one, and a connection that
cannot be closed does not matter, interrupts apart. So what counts is `Script.verdict`, the last
failure that is not of this quiet kind.

`Action.Follows` says that an action ends as the verdict on its own calls demands. It is kept by
every way of composing actions, so it holds of whole operations once it holds of single calls.
-/

namespace SqlBackend

/-- Whether the call is a wait. -/
def Call.isSleep : Call → Bool
  | .sleep _ => true
  | _ => false

@[simp] theorem Call.isSleep_sleep (seconds : Value) : (Call.sleep seconds).isSleep = true := rfl

/-- Whether the call closes the connection. -/
def Call.isClose : Call → Bool
  | .close => true
  | _ => false

/-- A call together with the error that it raised. -/
structure Failure where
  call : Call
  error : DriverError

namespace Failure

/-- Whether the error is an interrupt. -/
def isInterrupt (failure : Failure) : Bool := (Fault.raised failure.error).isInterrupt

/-- A connection that cannot be closed is a quiet failure, unless an interrupt is the reason. -/
def isQuiet (failure : Failure) : Bool := failure.call.isClose && !failure.isInterrupt

end Failure

namespace Script

/-- What comes of the statements that are still to be run. -/
def pending (script : Script) (world : World) : List (Option DriverError) :=
  script.execute.drop world.executed

/-- The error that a call raises when `n` statements went before it. -/
def answer (script : Script) (n : Nat) : Call → Option DriverError
  | .connect _ => script.connect
  | .cursor => script.cursor
  | .serverCursor => script.cursor
  | .execute _ => (script.execute[n]?).join
  | .executeWith _ _ => (script.execute[n]?).join
  | .fetchRow => script.fetchRow
  | .closeCursor => script.closeCursor
  | .commit => script.commit
  | .close => script.close
  | .request _ => none
  | .assign _ _ => none
  | .sleep seconds => script.refusal seconds

/-- The failures among calls that `n` statements went before, in order. -/
def failures (script : Script) : Nat → List Call → List Failure
  | _, [] => []
  | n, c :: rest =>
      ((script.answer n c).map (Failure.mk c)).toList ++
        script.failures (n + [c].countP Call.isExecute) rest

/-- The last failure that is not quiet. -/
def verdict (script : Script) (n : Nat) (calls : List Call) : Option Failure :=
  ((script.failures n calls).filter fun failure => !failure.isQuiet).getLast?

@[simp] theorem failures_nil (script : Script) (n : Nat) : script.failures n [] = [] := rfl

theorem failures_singleton (script : Script) (n : Nat) (c : Call) :
    script.failures n [c] = ((script.answer n c).map (Failure.mk c)).toList := by
  rw [failures, failures_nil, List.append_nil]

theorem failures_append (script : Script) (n : Nat) (calls more : List Call) :
    script.failures n (calls ++ more) =
      script.failures n calls ++ script.failures (n + calls.countP Call.isExecute) more := by
  induction calls generalizing n with
  | nil => simp
  | cons c rest ih =>
      have hcount : (c :: rest).countP Call.isExecute =
          [c].countP Call.isExecute + rest.countP Call.isExecute := by
        rw [← List.countP_append, List.singleton_append]
      rw [List.cons_append, failures, failures, ih, hcount, List.append_assoc, Nat.add_assoc]

@[simp] theorem verdict_nil (script : Script) (n : Nat) : script.verdict n [] = none := rfl

theorem verdict_append (script : Script) (n : Nat) (calls more : List Call) :
    script.verdict n (calls ++ more) =
      (script.verdict (n + calls.countP Call.isExecute) more).or (script.verdict n calls) := by
  rw [verdict, failures_append, List.filter_append, List.getLast?_append]
  rfl

theorem mem_failures_of_verdict {script : Script} {n : Nat} {calls : List Call}
    {failure : Failure} (h : script.verdict n calls = some failure) :
    failure ∈ script.failures n calls :=
  (List.mem_filter.mp (List.mem_of_getLast? h)).1

/-- A single call that closes nothing is judged by its answer. -/
theorem verdict_singleton (script : Script) (n : Nat) {c : Call} (h : c.isClose = false) :
    script.verdict n [c] = (script.answer n c).map (Failure.mk c) := by
  rw [verdict, failures_singleton]
  cases script.answer n c with
  | none => rfl
  | some error => simp [Failure.isQuiet, h]

end Script

namespace Action

variable {α β : Type} {refusal : Fault → Prop}

/-- An outcome agrees with a verdict if it is the error of the failure, or, without a failure, a
result or a fault for which nobody but the action itself is the reason. -/
def Agrees (refusal : Fault → Prop) : Option Failure → Except Fault α → Prop
  | some failure, outcome => outcome = .error (.raised failure.error)
  | none, .ok _ => True
  | none, .error fault => refusal fault

theorem Agrees.eq_none {verdict : Option Failure} {a : α} (h : Agrees refusal verdict (.ok a)) :
    verdict = none := by
  cases verdict with
  | none => rfl
  | some failure => cases h

/-- For a fault it does not matter what the result would have been. -/
theorem Agrees.of_error {verdict : Option Failure} {fault : Fault}
    (h : Agrees refusal verdict (.error fault : Except Fault α)) :
    Agrees refusal verdict (.error fault : Except Fault β) := by
  cases verdict with
  | none => exact h
  | some failure =>
      cases h
      rfl

theorem Agrees.mono {other : Fault → Prop} (himp : ∀ fault, refusal fault → other fault)
    {verdict : Option Failure} {outcome : Except Fault α} (h : Agrees refusal verdict outcome) :
    Agrees other verdict outcome := by
  cases verdict with
  | some failure => exact h
  | none =>
      cases outcome with
      | ok a => trivial
      | error fault => exact himp fault h

/-- An action follows its driver if its outcome agrees with the verdict on the calls that it makes.
It does not wait. -/
def Follows (refusal : Fault → Prop) (action : Action α) : Prop :=
  ∀ script world, ∃ made,
    (run action script world).2.calls = world.calls ++ made ∧
      (∀ c ∈ made, c.isSleep = false) ∧
        Agrees refusal (script.verdict world.executed made) (run action script world).1

/-- A world with more calls has more statements behind it. -/
theorem executed_of_calls_eq {world later : World} {made : List Call}
    (h : later.calls = world.calls ++ made) :
    later.executed = world.executed + made.countP Call.isExecute := by
  rw [World.executed, h, List.countP_append, World.executed]

/-- What does not call the driver follows it, if it fails with refusals only. -/
theorem follows_of_calls_eq {action : Action α}
    (hcalls : ∀ script world, (run action script world).2.calls = world.calls)
    (hfault : ∀ script world fault, (run action script world).1 = .error fault → refusal fault) :
    Follows refusal action := by
  intro script world
  refine ⟨[], by simp [hcalls], by simp, ?_⟩
  rw [Script.verdict_nil]
  cases h : (run action script world).1 with
  | ok a => trivial
  | error fault => exact hfault script world fault h

theorem follows_pure (a : α) : Follows refusal (pure a) :=
  follows_of_calls_eq (fun _ _ => rfl) (fun _ _ _ h => by cases h)

theorem follows_log (record : Record) : Follows refusal (log record) :=
  follows_of_calls_eq (fun _ _ => rfl) (fun _ _ _ h => by cases h)

theorem follows_ofExcept {outcome : Except Fault α}
    (h : ∀ fault, outcome = .error fault → refusal fault) : Follows refusal (ofExcept outcome) :=
  follows_of_calls_eq (fun _ _ => rfl) (fun _ _ fault hfault => h fault hfault)

/-- A call ends as the driver answers it. -/
theorem follows_call {c : Call} {failure : Script → World → Option DriverError}
    (hanswer : ∀ script world, failure script world = script.answer world.executed c)
    (hclose : c.isClose = false) (hsleep : c.isSleep = false) :
    Follows refusal (call c failure) := by
  intro script world
  refine ⟨[c], ?_, by simpa using hsleep, ?_⟩
  · rw [run_call, World.calls_extend]
  · rw [run_call, Script.verdict_singleton script world.executed hclose, hanswer]
    cases script.answer world.executed c with
    | none => trivial
    | some error => rfl

theorem follows_request (locked : Bool) : Follows refusal (perform (.request locked)) :=
  follows_call (fun _ _ => rfl) rfl rfl

theorem follows_connect (target : Target) : Follows refusal (connect target) :=
  follows_call (fun _ _ => rfl) rfl rfl

theorem follows_cursor : Follows refusal cursor :=
  follows_call (fun _ _ => rfl) rfl rfl

theorem follows_execute (statement : String) : Follows refusal (execute statement) :=
  follows_call (fun _ _ => rfl) rfl rfl

theorem follows_executeWith (statement : String) (parameters : List Value) :
    Follows refusal (executeWith statement parameters) :=
  follows_call (fun _ _ => rfl) rfl rfl

theorem follows_closeCursor : Follows refusal closeCursor :=
  follows_call (fun _ _ => rfl) rfl rfl

theorem follows_commit : Follows refusal commit :=
  follows_call (fun _ _ => rfl) rfl rfl

/-- Nothing runs after a failure, so the failure stays the last one. -/
theorem Follows.bind {action : Action α} {next : α → Action β} (h : Follows refusal action)
    (hnext : ∀ a, Follows refusal (next a)) : Follows refusal (action >>= next) := by
  intro script world
  obtain ⟨made, hcalls, hsleep, hend⟩ := h script world
  rcases hrun : run action script world with ⟨outcome, later⟩
  rw [hrun] at hcalls hend
  cases outcome with
  | error fault =>
      rw [run_bind_of_error hrun]
      exact ⟨made, hcalls, hsleep, hend.of_error⟩
  | ok a =>
      have hnone : script.verdict world.executed made = none := hend.eq_none
      obtain ⟨more, hmore, hsleep', hend'⟩ := hnext a script later
      rw [run_bind_of_ok hrun]
      refine ⟨made ++ more, ?_, List.forall_mem_append.mpr ⟨hsleep, hsleep'⟩, ?_⟩
      · rw [hmore, hcalls, List.append_assoc]
      · rw [Script.verdict_append, hnone, Option.or_none, ← executed_of_calls_eq hcalls]
        exact hend'

/-- A failure of the cleanup comes later than the work and takes the place of what came of it. The
cleanup must not refuse: its refusal would hide a failure of the work. -/
theorem Follows.thenAlways {work : Action α} {last : Action Unit} (h : Follows refusal work)
    (hlast : Follows (fun _ => False) last) : Follows refusal (work.thenAlways last) := by
  intro script world
  obtain ⟨made, hcalls, hsleep, hend⟩ := h script world
  rcases hrun : run work script world with ⟨outcome, middle⟩
  rw [hrun] at hcalls hend
  obtain ⟨more, hmore, hsleep', hend'⟩ := hlast script middle
  rcases hrun' : run last script middle with ⟨ending, later⟩
  rw [hrun'] at hmore hend'
  have hmade : later.calls = world.calls ++ (made ++ more) := by
    rw [hmore, hcalls, List.append_assoc]
  have hquiet : ∀ c ∈ made ++ more, c.isSleep = false :=
    List.forall_mem_append.mpr ⟨hsleep, hsleep'⟩
  have hverdict := script.verdict_append world.executed made more
  rw [← executed_of_calls_eq hcalls] at hverdict
  rw [run_thenAlways, hrun]
  simp only [hrun']
  cases hcase : script.verdict middle.executed more with
  | none =>
      rw [hcase] at hend' hverdict
      rw [Option.none_or] at hverdict
      cases ending with
      | error fault => exact absurd hend' (by simp [Agrees])
      | ok _ => exact ⟨made ++ more, hmade, hquiet, by rw [hverdict]; exact hend⟩
  | some failure =>
      rw [hcase] at hend' hverdict
      rw [Option.some_or] at hverdict
      cases hend'
      exact ⟨made ++ more, hmade, hquiet, by rw [hverdict]; rfl⟩

/-- What follows the driver without refusals ends with the error of the verdict. -/
theorem Follows.error_eq_verdict {action : Action Unit} (h : Follows (fun _ => False) action)
    {script : Script} {before : World} {made : List Call} {records : List Record}
    {error : Option DriverError}
    (hrun : run action script before = (endingWith error, before.extend made records)) :
    error = (script.verdict before.executed made).map Failure.error := by
  obtain ⟨calls, hcalls, -, hend⟩ := h script before
  rw [hrun, World.calls_extend] at hcalls
  rw [hrun, ← List.append_cancel_left hcalls] at hend
  cases hverdict : script.verdict before.executed made with
  | some failure =>
      rw [hverdict] at hend
      cases error with
      | none => cases hend
      | some e =>
          cases hend
          rfl
  | none =>
      rw [hverdict] at hend
      cases error with
      | none => rfl
      | some e => exact absurd hend id

theorem follows_fetchRow : Follows refusal fetchRow := by
  have hcall : Follows refusal (call .fetchRow fun script _ => script.fetchRow) :=
    follows_call (fun _ _ => rfl) rfl rfl
  have hread : Follows refusal script :=
    follows_of_calls_eq (fun _ _ => rfl) (fun _ _ _ h => by cases h)
  exact hcall.bind fun _ => hread.bind fun s => follows_pure s.row

theorem Follows.withCursor {work : Action α} (h : Follows refusal work) :
    Follows refusal (withCursor work) :=
  follows_cursor.bind fun _ => h.thenAlways follows_closeCursor

/-- A fault that is no interrupt. -/
def Ordinary (fault : Fault) : Prop := fault.isInterrupt = false

/-- An action that may refuse by itself, but not with an interrupt and not after a call, and that
otherwise ends as the verdict on its calls demands. It does not wait. -/
def RefusesFirst (action : Action α) : Prop :=
  ∀ script world, ∃ made,
    (run action script world).2.calls = world.calls ++ made ∧
      (∀ c ∈ made, c.isSleep = false) ∧
        Agrees (fun fault => Ordinary fault ∧ made = []) (script.verdict world.executed made)
          (run action script world).1

theorem Follows.refusesFirst {action : Action α} (h : Follows (fun _ => False) action) :
    RefusesFirst action := by
  intro script world
  obtain ⟨made, hcalls, hsleep, hend⟩ := h script world
  exact ⟨made, hcalls, hsleep, hend.mono fun _ hfalse => hfalse.elim⟩

theorem RefusesFirst.follows {action : Action α} (h : RefusesFirst action) :
    Follows Ordinary action := by
  intro script world
  obtain ⟨made, hcalls, hsleep, hend⟩ := h script world
  exact ⟨made, hcalls, hsleep, hend.mono fun _ hrefusal => hrefusal.1⟩

/-- What makes no calls may refuse, if no refusals come after it. -/
theorem RefusesFirst.of_silent_bind {action : Action α} {next : α → Action β}
    (hsilent : Silent action) (h : Follows Ordinary action)
    (hnext : ∀ a, Follows (fun _ => False) (next a)) : RefusesFirst (action >>= next) := by
  intro script world
  obtain ⟨outcome, records, hrun⟩ := hsilent script world
  cases outcome with
  | ok a =>
      obtain ⟨made, hcalls, hsleep, hend⟩ := (hnext a).refusesFirst script (world.extend [] records)
      rw [World.calls_extend, List.append_nil] at hcalls
      rw [World.executed_extend, List.countP_nil, Nat.add_zero] at hend
      rw [run_bind_of_ok hrun]
      exact ⟨made, hcalls, hsleep, hend⟩
  | error fault =>
      obtain ⟨made, hcalls, -, hend⟩ := h script world
      rw [hrun, World.calls_extend] at hcalls
      obtain rfl : [] = made := List.append_cancel_left hcalls
      rw [hrun] at hend
      rw [run_bind_of_error hrun]
      refine ⟨[], World.calls_extend _ _ _, by simp, ?_⟩
      exact ⟨hend, rfl⟩

theorem run_requireDriver (script : Script) (world : World) :
    run requireDriver script world =
      (if script.driverMissing then .error .driverMissing else .ok (), world) := by
  show run (if script.driverMissing then fail .driverMissing else pure ()) script world = _
  cases script.driverMissing with
  | true => rfl
  | false => rfl

theorem run_requireDriver_of_installed {script : Script} (h : script.driverMissing = false)
    (world : World) : run requireDriver script world = (.ok (), world) := by
  rw [run_requireDriver, h]
  rfl

theorem silent_requireDriver : Silent requireDriver := by
  intro script world
  refine ⟨if script.driverMissing then .error .driverMissing else .ok (), [], ?_⟩
  rw [run_requireDriver, World.extend_nil]

theorem follows_requireDriver : Follows Ordinary requireDriver := by
  refine follows_of_calls_eq ?_ ?_
  · intro script world
    rw [run_requireDriver]
  · intro script world fault h
    rw [run_requireDriver] at h
    cases hmissing : script.driverMissing with
    | true =>
        rw [hmissing] at h
        cases h
        rfl
    | false =>
        rw [hmissing] at h
        cases h

end Action

end SqlBackend
