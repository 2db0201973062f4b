import SqlBackend.Action.Cleanup

/-!
# Runs as extensions of the world

An action only adds to the world: calls at the end of the calls, records at the end of the records.
`World.extend` is the world with both added, and the lemmas here say of every primitive of `Action`
by what it extends the world and how it ends. A call of a driver ends as the driver answers, so the
outcome of a sequence of calls is an `Option DriverError`, turned into an outcome by `endingWith`. What
makes no calls, and adds records only, is `Silent`.
-/

namespace SqlBackend

namespace World

/-- The world after more calls and more records. -/
def extend (w : World) (calls : List Call) (records : List Record) : World :=
  { w with calls := w.calls ++ calls, records := w.records ++ records }

@[simp] theorem calls_extend (w : World) (calls : List Call) (records : List Record) :
    (w.extend calls records).calls = w.calls ++ calls := rfl

@[simp] theorem records_extend (w : World) (calls : List Call) (records : List Record) :
    (w.extend calls records).records = w.records ++ records := rfl

@[simp] theorem locked_extend (w : World) (calls : List Call) (records : List Record) :
    (w.extend calls records).locked = w.locked := rfl

@[simp] theorem extend_nil (w : World) : w.extend [] [] = w := by
  simp [extend]

@[simp] theorem extend_extend (w : World) (calls more : List Call) (records others : List Record) :
    (w.extend calls records).extend more others =
      w.extend (calls ++ more) (records ++ others) := by
  simp [extend]

theorem call_eq_extend (w : World) (c : Call) : w.call c = w.extend [c] [] := by
  simp [call, extend]

theorem record_eq_extend (w : World) (r : Record) : w.record r = w.extend [] [r] := by
  simp [record, extend]

/-- Statements that were run stay counted. -/
theorem executed_extend (w : World) (calls : List Call) (records : List Record) :
    (w.extend calls records).executed = w.executed + calls.countP Call.isExecute := by
  simp [executed]

end World

namespace Action

variable {α β : Type}

/-- The outcome of calls that one driver error at most put an end to. -/
def endingWith : Option DriverError → Except Fault Unit
  | none => .ok ()
  | some error => .error (.raised error)

@[simp] theorem endingWith_none : endingWith none = .ok () := rfl

@[simp] theorem endingWith_some (error : DriverError) :
    endingWith (some error) = .error (.raised error) := rfl

theorem run_call (c : Call) (failure : Script → World → Option DriverError) (script : Script)
    (world : World) :
    run (call c failure) script world =
      (endingWith (failure script world), world.extend [c] []) := by
  cases h : failure script world with
  | none => rw [run_call_of_none h, World.call_eq_extend, endingWith_none]
  | some error => rw [run_call_of_some h, World.call_eq_extend, endingWith_some]

theorem run_connect (target : Target) (script : Script) (world : World) :
    run (connect target) script world =
      (endingWith script.connect, world.extend [.connect target] []) :=
  run_call _ _ script world

theorem run_cursor (script : Script) (world : World) :
    run cursor script world = (endingWith script.cursor, world.extend [.cursor] []) :=
  run_call _ _ script world

theorem run_execute (statement : String) (script : Script) (world : World) :
    run (execute statement) script world =
      (endingWith (nextFailure script world), world.extend [.execute statement] []) :=
  run_call _ _ script world

theorem run_executeWith (statement : String) (parameters : List Value) (script : Script)
    (world : World) :
    run (executeWith statement parameters) script world =
      (endingWith (nextFailure script world),
        world.extend [.executeWith statement parameters] []) :=
  run_call _ _ script world

/-- Calls that run no statement leave the answer to the next statement as it is. -/
theorem nextFailure_extend (script : Script) (world : World) {made : List Call}
    (h : made.countP Call.isExecute = 0) (records : List Record) :
    nextFailure script (world.extend made records) = nextFailure script world := by
  rw [nextFailure, World.executed_extend, h, Nat.add_zero, nextFailure]

theorem run_fetchRow (script : Script) (world : World) :
    run fetchRow script world =
      ((endingWith script.fetchRow).map fun _ => script.row, world.extend [.fetchRow] []) := by
  have hcall : run (call .fetchRow fun script _ => script.fetchRow) script world =
      (endingWith script.fetchRow, world.extend [.fetchRow] []) := run_call _ _ script world
  rw [fetchRow]
  cases hfetch : script.fetchRow with
  | some error =>
      rw [hfetch] at hcall
      exact run_bind_of_error hcall
  | none =>
      rw [hfetch] at hcall
      exact run_bind_of_ok hcall

theorem run_closeCursor (script : Script) (world : World) :
    run closeCursor script world =
      (endingWith script.closeCursor, world.extend [.closeCursor] []) :=
  run_call _ _ script world

theorem run_commit (script : Script) (world : World) :
    run commit script world = (endingWith script.commit, world.extend [.commit] []) :=
  run_call _ _ script world

theorem run_close (script : Script) (world : World) :
    run close script world = (endingWith script.close, world.extend [.close] []) :=
  run_call _ _ script world

/-- A wait ends as the clock answers it. -/
theorem run_sleep (seconds : Value) (script : Script) (world : World) :
    run (sleep seconds) script world =
      (endingWith (script.refusal seconds), world.extend [.sleep seconds] []) :=
  run_call _ _ script world

/-- A call that cannot fail is made and that is all. -/
theorem run_perform (c : Call) (script : Script) (world : World) :
    run (perform c) script world = (.ok (), world.extend [c] []) :=
  run_call _ _ script world

theorem run_log_eq_extend (record : Record) (script : Script) (world : World) :
    run (log record) script world = (.ok (), world.extend [] [record]) := by
  rw [run_log, World.record_eq_extend]

/-- An error of the cleanup takes the place of what the work ended with. -/
theorem run_thenAlways_of_endingWith {work last : Action Unit} {script : Script}
    {world middle later : World} {error other : Option DriverError}
    (hwork : run work script world = (endingWith error, middle))
    (hlast : run last script middle = (endingWith other, later)) :
    run (work.thenAlways last) script world = (endingWith (other.or error), later) := by
  rw [run_thenAlways, hwork]
  cases other with
  | none => simp [hlast]
  | some e => simp [hlast]

/-- Work with a cursor ends with the error of closing it, or else with that of the work; without a
cursor there is no work. -/
theorem run_withCursor {work : Action α} {script : Script} {world : World} {value : Unit → α}
    {error : Option DriverError} {made : List Call}
    (hwork : run work script (world.extend [.cursor] []) =
      ((endingWith error).map value, world.extend (.cursor :: made) [])) :
    run (withCursor work) script world =
      ((endingWith (script.cursor.or (script.closeCursor.or error))).map value,
        world.extend (.cursor :: if script.cursor.isSome then [] else made ++ [.closeCursor]) []) := by
  have hcursor := run_cursor script world
  have hclose := run_closeCursor script (world.extend (.cursor :: made) [])
  rw [World.extend_extend] at hclose
  rw [withCursor]
  cases hc : script.cursor with
  | some failure =>
      rw [hc] at hcursor
      exact run_bind_of_error hcursor
  | none =>
      rw [hc] at hcursor
      rw [run_bind_of_ok hcursor, run_thenAlways, hwork]
      cases hlast : script.closeCursor with
      | some failure =>
          rw [hlast] at hclose
          simp only [hclose]
          rfl
      | none =>
          rw [hlast] at hclose
          simp only [hclose]
          rfl

/-- An action that makes no calls. -/
def Silent (action : Action α) : Prop :=
  ∀ script world, ∃ outcome records, run action script world = (outcome, world.extend [] records)

theorem silent_pure (a : α) : Silent (pure a) := by
  intro script world
  refine ⟨.ok a, [], ?_⟩
  rw [run_pure, World.extend_nil]

theorem silent_ofExcept (outcome : Except Fault α) : Silent (ofExcept outcome) := by
  intro script world
  refine ⟨outcome, [], ?_⟩
  rw [run_ofExcept, World.extend_nil]

theorem silent_log (record : Record) : Silent (log record) := by
  intro script world
  exact ⟨.ok (), [record], run_log_eq_extend record script world⟩

theorem Silent.bind {action : Action α} {next : α → Action β} (h : Silent action)
    (hnext : ∀ a, Silent (next a)) : Silent (action >>= next) := by
  intro script world
  obtain ⟨outcome, records, hrun⟩ := h script world
  cases outcome with
  | error fault => exact ⟨.error fault, records, run_bind_of_error hrun⟩
  | ok a =>
      obtain ⟨outcome, more, hmore⟩ := hnext a script (world.extend [] records)
      refine ⟨outcome, records ++ more, ?_⟩
      rw [run_bind_of_ok hrun, hmore, World.extend_extend, List.nil_append]

end Action

end SqlBackend
