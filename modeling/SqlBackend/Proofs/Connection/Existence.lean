import SqlBackend.Dialect.Builtin
import SqlBackend.Proofs.Connection.Probe
import SqlBackend.Proofs.Flush.Handover

/-!
# How the question whether a database exists is settled

The question makes few calls, `existenceCalls`: the statement of the dialect runs with the name as its
parameter, the row is fetched if the statement went well, and a cursor that was obtained is closed
whatever happened. At most one error is left of them, `existenceError`, and it settles the question
unless there is none and the row has to be read.
-/

namespace SqlBackend

open SqlBackend.Action

namespace Connection

theorem countIsPositive_of_not_truthy {row : Value} (h : row.truthy = false) :
    countIsPositive row = .ok false := by
  unfold countIsPositive
  split
  · cases h
  · cases h
  · rw [if_neg (by simp [h])]

theorem countIsPositive_of_amount? {first : Value} {n : Int} (h : first.amount? = some (.inl n))
    (rest : List Value) : countIsPositive (.list (first :: rest)) = .ok (decide (0 < n)) := by
  rw [countIsPositive, h]
  rfl

/-- The calls between the opening and the closing of the cursor. -/
def askingCalls (statement : String) (name : Value) (script : Script) (world : World) : List Call :=
  .executeWith statement [name] ::
    if (nextFailure script world).isSome then [] else [.fetchRow]

theorem mem_askingCalls {statement : String} {name : Value} {script : Script} {world : World}
    {c : Call} (h : c ∈ askingCalls statement name script world) :
    c = .executeWith statement [name] ∨ c = .fetchRow := by
  rcases List.mem_cons.mp h with rfl | h
  · exact .inl rfl
  · cases hnext : nextFailure script world with
    | some error =>
        rw [hnext] at h
        cases h
    | none =>
        rw [hnext] at h
        exact .inr (List.mem_singleton.mp h)

/-- The error that asking with an open cursor ends with. -/
def askingError (script : Script) (world : World) : Option DriverError :=
  (nextFailure script world).or script.fetchRow

/-- The error that the question ends with: that of closing the cursor, or else the first one of
obtaining it, running the statement and fetching the row. A cursor that was not obtained is not
closed. -/
def existenceError (script : Script) (world : World) : Option DriverError :=
  script.cursor.or (script.closeCursor.or (askingError script world))

theorem run_executeWith_fetchRow (statement : String) (name : Value) (script : Script)
    (world : World) :
    run (executeWith statement [name] >>= fun _ => fetchRow) script world =
      ((endingWith (askingError script world)).map fun _ => script.row,
        world.extend (askingCalls statement name script world) []) := by
  have hexecute := run_executeWith statement [name] script world
  rw [askingError, askingCalls]
  cases hnext : nextFailure script world with
  | some error =>
      rw [hnext] at hexecute
      exact run_bind_of_error hexecute
  | none =>
      rw [hnext] at hexecute
      rw [run_bind_of_ok hexecute, run_fetchRow, World.extend_extend]
      rfl

end Connection

namespace Dialect

open SqlBackend.Connection

/-- The calls of the question. -/
def existenceCalls (d : Dialect) (name : Value) (script : Script) (world : World) : List Call :=
  .cursor :: if script.cursor.isSome then []
    else askingCalls d.databaseExistsSql name script world ++ [.closeCursor]

variable (d : Dialect) (name : Value) (script : Script) (world : World)

theorem run_existenceQuery :
    run (d.existenceQuery name) script world =
      ((endingWith (existenceError script world)).map fun _ => script.row,
        world.extend (d.existenceCalls name script world) []) := by
  have hnext : nextFailure script (world.extend [.cursor] []) = nextFailure script world :=
    nextFailure_extend script world rfl []
  have hasking := run_executeWith_fetchRow d.databaseExistsSql name script
    (world.extend [.cursor] [])
  rw [World.extend_extend, askingError, askingCalls, hnext] at hasking
  exact run_withCursor hasking

/-- A cursor that was obtained is closed once, and another one not at all. -/
theorem countP_isCloseCursor_existenceCalls :
    (d.existenceCalls name script world).countP Call.isCloseCursor =
      if script.cursor.isSome then 0 else 1 := by
  rw [existenceCalls, askingCalls]
  cases script.cursor with
  | some error => rfl
  | none =>
      cases nextFailure script world with
      | some error => rfl
      | none => rfl

/-- Nothing is called but the cursor, and nothing runs but the statement of the dialect. -/
theorem mem_existenceCalls {c : Call} (h : c ∈ d.existenceCalls name script world) :
    c = .cursor ∨ c = .executeWith d.databaseExistsSql [name] ∨ c = .fetchRow ∨
      c = .closeCursor := by
  rw [existenceCalls] at h
  rcases List.mem_cons.mp h with rfl | h
  · exact .inl rfl
  · cases hcursor : script.cursor with
    | some error =>
        rw [hcursor] at h
        cases h
    | none =>
        rw [hcursor] at h
        rcases List.mem_append.mp h with h | h
        · rcases mem_askingCalls h with rfl | rfl
          · exact .inr (.inl rfl)
          · exact .inr (.inr (.inl rfl))
        · exact .inr (.inr (.inr (List.mem_singleton.mp h)))

/-- The question is put by the one statement of the dialect, whatever the name is, and the cursor is
closed exactly if it was obtained. Without an error it is answered by the row, which says yes if it
begins with a positive count and no if there is nothing in it. An ordinary error is passed on with its
kind, and an interrupt as it is. -/
theorem question_is_settled :
    (run (d.databaseExists name) script world).2 =
        world.extend (d.existenceCalls name script world) [] ∧
      (d.existenceCalls name script world).countP Call.isCloseCursor =
        (if script.cursor.isSome then 0 else 1) ∧
      (∀ c ∈ d.existenceCalls name script world, c ≠ .commit ∧ c ≠ .close ∧
        (c.isExecute = true → c = .executeWith d.databaseExistsSql [name])) ∧
      (existenceError script world = none →
        (script.row.truthy = false →
          (run (d.databaseExists name) script world).1 = .ok false) ∧
        ∀ first rest n, script.row = .list (first :: rest) → first.amount? = some (.inl n) →
          (run (d.databaseExists name) script world).1 = .ok (decide (0 < n))) ∧
      ∀ error, existenceError script world = some error →
        (error.severity ≠ .interrupt → ∃ kind, d.classify (.raised error) = .ok kind ∧
          (run (d.databaseExists name) script world).1 = .error (.serviceFailure kind error)) ∧
        (error.severity = .interrupt →
          (run (d.databaseExists name) script world).1 = .error (.raised error)) := by
  have hquery := d.run_existenceQuery name script world
  have hcalls : (run (d.databaseExists name) script world).2 =
      world.extend (d.existenceCalls name script world) [] := by
    cases herror : existenceError script world with
    | none =>
        rw [herror] at hquery
        rw [run_databaseExists_of_ok hquery]
    | some error =>
        rw [herror] at hquery
        cases hinterrupt : (Fault.raised error).isInterrupt with
        | true => rw [run_databaseExists_of_interrupt hquery hinterrupt]
        | false =>
            obtain ⟨kind, hrun⟩ := run_databaseExists_of_error hquery hinterrupt
            rw [hrun]
  refine ⟨hcalls, d.countP_isCloseCursor_existenceCalls name script world, ?_, ?_, ?_⟩
  · intro c hc
    rcases d.mem_existenceCalls name script world hc with rfl | rfl | rfl | rfl
    · exact ⟨by simp, by simp, fun h => by cases h⟩
    · exact ⟨by simp, by simp, fun _ => rfl⟩
    · exact ⟨by simp, by simp, fun h => by cases h⟩
    · exact ⟨by simp, by simp, fun h => by cases h⟩
  · intro herror
    rw [herror] at hquery
    rw [run_databaseExists_of_ok hquery]
    refine ⟨countIsPositive_of_not_truthy, ?_⟩
    intro first rest n hrow hfirst
    rw [hrow]
    exact countIsPositive_of_amount? hfirst rest
  · intro error herror
    rw [herror] at hquery
    constructor
    · intro hordinary
      obtain ⟨kind, hkind⟩ := d.exists_classify_raised error
      have hrun := run_databaseExists_of_classify hquery (by simpa [Fault.isInterrupt]) hkind
      exact ⟨kind, hkind, by rw [hrun]⟩
    · intro hinterrupt
      rw [run_databaseExists_of_interrupt hquery (by simpa [Fault.isInterrupt])]

/-- A driver that is interrupted in a statement, and then cannot close the cursor because of an error
that has a code. -/
def codedCleanup : Script where
  execute := [some ⟨.interrupt, "statement", [], []⟩]
  closeCursor := some ⟨.ordinary, "cursor", [.object [("code", .int 1)]], []⟩

/-- A driver that fetches more than a count. -/
def longRow : Script where
  row := .list [.bool true, .text "more"]

theorem question_is_settled_by_codedCleanup :
    existenceError codedCleanup {} = codedCleanup.closeCursor ∧
      (run (Dialect.oracle.databaseExists (.text "store")) codedCleanup {}).1 =
        .error (.serviceFailure (some .duplicateRow)
          ⟨.ordinary, "cursor", [.object [("code", .int 1)]], []⟩) ∧
      (run (Dialect.oracle.databaseExists (.text "store")) codedCleanup {}).2.calls =
        [.cursor, .executeWith "SELECT COUNT(*) FROM DBA_USERS WHERE USERNAME = :1" [.text "store"],
          .closeCursor] ∧
      (run (Dialect.sqlite.databaseExists .null) longRow {}).1 = .ok true := by
  obtain ⟨hworld, -, -, -, hfailed⟩ :=
    question_is_settled .oracle (.text "store") codedCleanup {}
  obtain ⟨kind, hkind, hrun⟩ := (hfailed _ rfl).1 (by decide)
  obtain ⟨-, -, -, hanswered, -⟩ := question_is_settled .sqlite .null longRow {}
  obtain rfl : some .duplicateRow = kind := Except.ok.inj hkind
  refine ⟨rfl, hrun, ?_, (hanswered rfl).2 _ _ 1 rfl rfl⟩
  rw [hworld]
  rfl

end Dialect

end SqlBackend
