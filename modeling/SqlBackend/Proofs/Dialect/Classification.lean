import Mathlib.Data.List.Find
import Mathlib.Data.List.Nodup
import SqlBackend.Dialect.Builtin
import SqlBackend.Proofs.Table

/-!
# The two ways of classifying an error

An error can be asked for its kind, or a kind can be asked whether an error is of it. Both answers are
read off `Dialect.lists`, which says of a kind whether the table has just the code of the error for it:
the kind of an error is the first one in the table that `lists` holds of. A code may stand in the table
several times, and then the first kind hides the others; where no code occurs twice, as in the tables
of the engines, nothing is hidden.
-/

namespace SqlBackend.Dialect

variable {d : Dialect} {error : Value} {code : Option Code}

/-- Whether the table has the code of an error for a kind; an error without a code is in no table. -/
def lists (d : Dialect) (code : Option Code) (kind : ErrorKind) : Bool :=
  code.isSome && d.errorCodes.get? kind == code

theorem lists_none (kind : ErrorKind) : d.lists none kind = false := rfl

theorem lists_eq_true_iff {kind : ErrorKind} :
    d.lists code kind = true ↔ ∃ c, code = some c ∧ (kind, c) ∈ d.errorCodes.entries := by
  cases code with
  | none => simp [lists]
  | some c => simp [lists, Table.get?_eq_some_iff]

theorem mem_keys_of_lists {kind : ErrorKind} (h : d.lists code kind = true) :
    kind ∈ d.errorCodes.keys := by
  obtain ⟨c, -, hmem⟩ := lists_eq_true_iff.mp h
  exact List.mem_map_of_mem hmem

theorem classifyMatches_of_nativeCode (h : d.nativeCode error = .ok code) (kind : ErrorKind) :
    d.classifyMatches error kind = .ok (d.lists code kind) := by
  rw [classifyMatches, lists]
  cases hkind : d.errorCodes.get? kind with
  | none =>
      cases code with
      | none => rfl
      | some c => rfl
  | some registered =>
      rw [h]
      cases code with
      | none => rfl
      | some c =>
          show Except.ok (some c == some registered) = _
          rw [Option.isSome_some, Bool.true_and, BEq.comm]

theorem kindOfCode?_eq_find? (d : Dialect) (c : Code) :
    d.kindOfCode? c = d.errorCodes.keys.find? (d.lists (some c)) := by
  have hentry : ∀ entry ∈ d.errorCodes.entries,
      decide (entry.2 = c) = d.lists (some c) entry.1 := by
    intro entry hmem
    have hget : d.errorCodes.get? entry.1 = some entry.2 := Table.get?_eq_some_iff.mpr hmem
    rw [lists, hget]
    rfl
  rw [kindOfCode?, Table.keys, List.find?_map]
  congr 1
  exact List.find?_congr hentry

theorem classify_of_nativeCode (h : d.nativeCode error = .ok code) :
    d.classify error = .ok (d.errorCodes.keys.find? (d.lists code)) := by
  rw [classify, h]
  cases code with
  | none =>
      have hnone : d.errorCodes.keys.find? (d.lists none) = none := by
        simp [lists_none]
      rw [hnone]
      rfl
  | some c =>
      rw [← kindOfCode?_eq_find?]
      rfl

theorem classifyMatches_eq_true_iff (h : d.nativeCode error = .ok code) {kind : ErrorKind} :
    d.classifyMatches error kind = .ok true ↔ d.lists code kind = true := by
  rw [classifyMatches_of_nativeCode h, Except.ok.injEq]

theorem classifyMatches_eq_false_iff (h : d.nativeCode error = .ok code) {kind : ErrorKind} :
    d.classifyMatches error kind = .ok false ↔ d.lists code kind = false := by
  rw [classifyMatches_of_nativeCode h, Except.ok.injEq]

/-- The kind of an error is the first one in the table that the error is of. -/
theorem classify_eq_some_iff (h : d.nativeCode error = .ok code) {kind : ErrorKind} :
    d.classify error = .ok (some kind) ↔
      ∃ before after, d.errorCodes.keys = before ++ kind :: after ∧
        d.classifyMatches error kind = .ok true ∧
        ∀ other ∈ before, d.classifyMatches error other = .ok false := by
  rw [classify_of_nativeCode h, Except.ok.injEq, List.find?_eq_some_iff_append]
  constructor
  · rintro ⟨hlists, before, after, hkeys, hbefore⟩
    refine ⟨before, after, hkeys, (classifyMatches_eq_true_iff h).mpr hlists, ?_⟩
    intro other hother
    rw [classifyMatches_eq_false_iff h]
    simpa using hbefore other hother
  · rintro ⟨before, after, hkeys, hmatches, hbefore⟩
    refine ⟨(classifyMatches_eq_true_iff h).mp hmatches, before, after, hkeys, ?_⟩
    intro other hother
    have hother := (classifyMatches_eq_false_iff h).mp (hbefore other hother)
    simpa using hother

/-- An error has no kind exactly if it is of none, in the table or not. -/
theorem classify_eq_none_iff (h : d.nativeCode error = .ok code) :
    d.classify error = .ok none ↔ ∀ kind, d.classifyMatches error kind = .ok false := by
  rw [classify_of_nativeCode h, Except.ok.injEq, List.find?_eq_none]
  constructor
  · intro hnone kind
    rw [classifyMatches_eq_false_iff h]
    cases hlists : d.lists code kind with
    | false => rfl
    | true => exact absurd hlists (hnone kind (mem_keys_of_lists hlists))
  · intro hall kind _
    rw [(classifyMatches_eq_false_iff h).mp (hall kind)]
    simp

/-- Where no code occurs twice, the kind of an error is the only one that it is of. An error whose code
cannot be told is of no kind and has none. -/
theorem classifyMatches_iff_classify_of_nodup
    (hcodes : (d.errorCodes.entries.map Prod.snd).Nodup) (value : Value) (kind : ErrorKind) :
    d.classifyMatches value kind = .ok true ↔ d.classify value = .ok (some kind) := by
  cases hnative : d.nativeCode value with
  | error fault =>
      have hclassify : d.classify value = .error fault := by
        rw [classify, hnative]
        rfl
      rw [hclassify, classifyMatches, hnative]
      cases d.errorCodes.get? kind with
      | none => simp
      | some registered =>
          constructor
          · intro hmatches
            cases hmatches
          · intro hclassify
            cases hclassify
  | ok code =>
      constructor
      · intro hmatches
        have hlists := (classifyMatches_eq_true_iff hnative).mp hmatches
        rw [classify_of_nativeCode hnative]
        cases hfind : d.errorCodes.keys.find? (d.lists code) with
        | none =>
            exact absurd hlists (List.find?_eq_none.mp hfind kind (mem_keys_of_lists hlists))
        | some first =>
            obtain ⟨c, rfl, hkind⟩ := lists_eq_true_iff.mp hlists
            obtain ⟨c', hc', hfirst⟩ := lists_eq_true_iff.mp (List.find?_some hfind)
            cases hc'
            have heq := List.inj_on_of_nodup_map hcodes hfirst hkind rfl
            cases heq
            rfl
      · intro hclassify
        obtain ⟨_, _, -, hmatches, -⟩ := (classify_eq_some_iff hnative).mp hclassify
        exact hmatches

theorem nodup_errorCodes (engine : Engine) :
    (engine.dialect.errorCodes.entries.map Prod.snd).Nodup := by
  cases engine <;> decide

/-- Of any dialect, the kind of an error whose code can be told is the first one in the table that the
error is of, and there is none exactly if the error is of no kind at all. With an engine, an error is
of a kind exactly if that is its kind, so it is of one kind at most. -/
theorem classify_agrees_with_classifyMatches :
    (∀ (d : Dialect) (error : Value) (code : Option Code), d.nativeCode error = .ok code →
      (∃ kind?, d.classify error = .ok kind?) ∧
      (∀ kind, d.classify error = .ok (some kind) ↔
        ∃ before after, d.errorCodes.keys = before ++ kind :: after ∧
          d.classifyMatches error kind = .ok true ∧
          ∀ other ∈ before, d.classifyMatches error other = .ok false) ∧
      (d.classify error = .ok none ↔ ∀ kind, d.classifyMatches error kind = .ok false)) ∧
    ∀ (engine : Engine) (error : Value) (kind : ErrorKind),
      (engine.dialect.classifyMatches error kind = .ok true ↔
        engine.dialect.classify error = .ok (some kind)) ∧
      ∀ other, engine.dialect.classifyMatches error kind = .ok true →
        engine.dialect.classifyMatches error other = .ok true → kind = other := by
  constructor
  · intro d error code h
    exact ⟨⟨_, classify_of_nativeCode h⟩, fun _ => classify_eq_some_iff h, classify_eq_none_iff h⟩
  · intro engine error kind
    have hiff := classifyMatches_iff_classify_of_nodup (nodup_errorCodes engine) error
    refine ⟨hiff kind, ?_⟩
    intro other hkind hother
    have hsame := ((hiff kind).mp hkind).symm.trans ((hiff other).mp hother)
    cases hsame
    rfl

/-- A dialect with one code for two kinds. -/
def sharedCode : Dialect where
  kind := "Bare"
  errorCodes := .ofPairs
    [(.deadlockDetected, .number 40001), (.tableFull, .word "23000"), (.duplicateRow, .word "23000")]

theorem classify_of_sharedCode :
    sharedCode.nativeCode (.text "23000") = .ok (some (.word "23000")) ∧
      sharedCode.classifyMatches (.text "23000") .duplicateRow = .ok true ∧
      sharedCode.classify (.text "23000") = .ok (some .tableFull) ∧
      sharedCode.classifyMatches (.text "40001") .deadlockDetected = .ok false ∧
      sharedCode.classify (.text "40001") = .ok none := by
  have hcode : sharedCode.nativeCode (.text "23000") = .ok (some (.word "23000")) := rfl
  obtain ⟨-, hsome, -⟩ := classify_agrees_with_classifyMatches.1 sharedCode _ _ hcode
  have hother : sharedCode.nativeCode (.text "40001") = .ok (some (.word "40001")) := rfl
  obtain ⟨-, -, hnone⟩ := classify_agrees_with_classifyMatches.1 sharedCode _ _ hother
  refine ⟨hcode, rfl, (hsome .tableFull).mpr ?_, rfl, hnone.mpr ?_⟩
  · exact ⟨[.deadlockDetected], [.duplicateRow], rfl, rfl, List.forall_mem_singleton.mpr rfl⟩
  · intro kind
    cases kind <;> rfl

end SqlBackend.Dialect
