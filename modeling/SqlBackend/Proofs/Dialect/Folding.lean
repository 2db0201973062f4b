import SqlBackend.Proofs.Dialect.Readable

/-!
# Two codes for one kind

SQLite has a code of its own for a primary key that occurs twice and another for any other unique
value that does. Its dialect takes the first for the second with `foldPrimaryKey`, which leaves every
other code alone, so these two are the only codes that it makes one. The table of the dialect has the
second code for rows that exist already and for no other kind. Kinds that are not in the table at all
are the kind of nothing, whatever is asked about.
-/

namespace SqlBackend.Dialect

/-- The codes of SQLite for a value that occurs twice. -/
def uniquenessCodes : List Code := [.number primaryKeyCode, .number uniqueCode]

section

variable {code a b : Code}

theorem foldPrimaryKey_of_ne (h : code ≠ .number primaryKeyCode) : foldPrimaryKey code = code := by
  rw [foldPrimaryKey, if_neg h]

theorem foldPrimaryKey_of_mem (h : code ∈ uniquenessCodes) :
    foldPrimaryKey code = .number uniqueCode := by
  simp only [uniquenessCodes, List.mem_cons, List.not_mem_nil, or_false] at h
  rcases h with rfl | rfl
  · rw [foldPrimaryKey, if_pos rfl]
  · exact foldPrimaryKey_of_ne (by decide)

/-- Only a code for a value that occurs twice becomes one. -/
theorem foldPrimaryKey_of_not_mem (h : code ∉ uniquenessCodes) : foldPrimaryKey code = code :=
  foldPrimaryKey_of_ne fun heq => h (heq ▸ List.mem_cons_self)

theorem foldPrimaryKey_mem_iff : foldPrimaryKey code ∈ uniquenessCodes ↔ code ∈ uniquenessCodes := by
  by_cases h : code ∈ uniquenessCodes
  · have hunique : Code.number uniqueCode ∈ uniquenessCodes := by decide
    rw [foldPrimaryKey_of_mem h]
    exact iff_of_true hunique h
  · rw [foldPrimaryKey_of_not_mem h]

/-- Different codes become the same only if both are for a value that occurs twice. -/
theorem foldPrimaryKey_eq_iff :
    foldPrimaryKey a = foldPrimaryKey b ↔ a = b ∨ a ∈ uniquenessCodes ∧ b ∈ uniquenessCodes := by
  constructor
  · intro h
    by_cases ha : a ∈ uniquenessCodes
    · have hb : b ∈ uniquenessCodes := by
        rwa [← foldPrimaryKey_mem_iff, ← h, foldPrimaryKey_mem_iff]
      exact .inr ⟨ha, hb⟩
    · have hb : b ∉ uniquenessCodes := by
        rwa [← foldPrimaryKey_mem_iff, ← h, foldPrimaryKey_mem_iff]
      rw [foldPrimaryKey_of_not_mem ha, foldPrimaryKey_of_not_mem hb] at h
      exact .inl h
  · rintro (rfl | ⟨ha, hb⟩)
    · rfl
    · rw [foldPrimaryKey_of_mem ha, foldPrimaryKey_of_mem hb]

theorem map_foldPrimaryKey_of_ne {found : Option Code} (h : found ≠ some (.number primaryKeyCode)) :
    found.map foldPrimaryKey = found := by
  cases found with
  | none => rfl
  | some code => rw [Option.map_some, foldPrimaryKey_of_ne fun heq => h (congrArg some heq)]

theorem map_foldPrimaryKey_eq_iff {found other : Option Code} (hne : found ≠ other) :
    found.map foldPrimaryKey = other.map foldPrimaryKey ↔
      ∃ c ∈ uniquenessCodes, ∃ c' ∈ uniquenessCodes, found = some c ∧ other = some c' := by
  constructor
  · intro hsame
    cases found with
    | none => exact absurd (Option.map_eq_none_iff.mp hsame.symm).symm hne
    | some c =>
        cases other with
        | none => cases hsame
        | some c' =>
            have hcodes : c ≠ c' := fun heq => hne (congrArg some heq)
            obtain ⟨hc, hc'⟩ := (foldPrimaryKey_eq_iff.mp (Option.some.inj hsame)).resolve_left hcodes
            exact ⟨c, hc, c', hc', rfl, rfl⟩
  · rintro ⟨c, hc, c', hc', rfl, rfl⟩
    exact congrArg some (foldPrimaryKey_eq_iff.mpr (.inr ⟨hc, hc'⟩))

end

section

variable {error : Value} {found : Option Code}

theorem nativeCode_sqlite (h : nativeErrorCode error = .ok found) :
    sqlite.nativeCode error = .ok (found.map foldPrimaryKey) := by
  show (nativeErrorCode error).map (·.map foldPrimaryKey) = _
  rw [h]
  rfl

theorem nativeCode_sqlite_of_mem {code : Code} (h : nativeErrorCode error = .ok (some code))
    (hcode : code ∈ uniquenessCodes) :
    sqlite.nativeCode error = .ok (some (.number uniqueCode)) := by
  rw [nativeCode_sqlite h, Option.map_some, foldPrimaryKey_of_mem hcode]

/-- The code of a value that occurs twice is in the table for one kind. -/
theorem lists_uniqueCode (kind : ErrorKind) :
    sqlite.lists (some (.number uniqueCode)) kind = decide (kind = .duplicateRow) := by
  cases kind <;> rfl

/-- A kind without a code is the kind of nothing. -/
theorem not_of_kind_without_code {d : Dialect} {kind : ErrorKind}
    (h : d.errorCodes.get? kind = none) (value : Value) :
    d.classifyMatches value kind = .ok false ∧ d.classify value ≠ .ok (some kind) := by
  constructor
  · rw [classifyMatches, h]
  · intro hkind
    cases hnative : d.nativeCode value with
    | error fault =>
        rw [classify_of_error d hnative] at hkind
        cases hkind
    | ok code =>
        obtain ⟨_, _, -, hmatches, -⟩ := (classify_eq_some_iff hnative).mp hkind
        rw [classifyMatches, h] at hmatches
        cases hmatches

end

/-- With SQLite, the code of an error is never that of a primary key, which counts as that of a unique
value; any other code stays what it is, and so does having none. Errors with either of the two codes,
wherever they carry it, are rows that exist already and are of no other kind. Two errors with different
codes have the same code with SQLite only if theirs are these two. Nothing is of one of the kinds for
foreign keys, or of that for a table that does not exist. -/
theorem folding_joins_uniqueness_codes_only :
    (∀ (error : Value) (found : Option Code), nativeErrorCode error = .ok found →
      sqlite.nativeCode error ≠ .ok (some (.number 1555)) ∧
      (found = some (.number 1555) → sqlite.nativeCode error = .ok (some (.number 2067))) ∧
      (found ≠ some (.number 1555) → sqlite.nativeCode error = .ok found)) ∧
    (∀ (error : Value) (code : Code), nativeErrorCode error = .ok (some code) →
      code ∈ [Code.number 1555, .number 2067] →
      sqlite.classify error = .ok (some .duplicateRow) ∧
      ∀ kind, sqlite.classifyMatches error kind = .ok (decide (kind = .duplicateRow))) ∧
    (∀ (first second : Value) (a b : Option Code), nativeErrorCode first = .ok a →
      nativeErrorCode second = .ok b → a ≠ b →
      (sqlite.nativeCode first = sqlite.nativeCode second ↔
        ∃ c ∈ [Code.number 1555, .number 2067], ∃ c' ∈ [Code.number 1555, .number 2067],
          a = some c ∧ b = some c')) ∧
    ∀ (value : Value), ∀ kind ∈ [ErrorKind.foreignKeyNoParent, .foreignKeyChildExists, .noSuchTable],
      sqlite.classifyMatches value kind = .ok false ∧ sqlite.classify value ≠ .ok (some kind) := by
  refine ⟨?_, ?_, ?_, ?_⟩
  · intro error found h
    rw [nativeCode_sqlite h]
    refine ⟨?_, ?_, ?_⟩
    · intro hfolded
      obtain ⟨code, -, hcode⟩ := Option.map_eq_some_iff.mp (Except.ok.inj hfolded)
      exact foldPrimaryKey_ne code hcode
    · rintro rfl
      rfl
    · intro hne
      rw [map_foldPrimaryKey_of_ne hne]
  · intro error code h hcode
    have hnative := nativeCode_sqlite_of_mem h hcode
    constructor
    · rw [classify_of_nativeCode hnative]
      rfl
    · intro kind
      rw [classifyMatches_of_nativeCode hnative, lists_uniqueCode]
  · intro first second a b hfirst hsecond hne
    rw [nativeCode_sqlite hfirst, nativeCode_sqlite hsecond, Except.ok.injEq]
    exact map_foldPrimaryKey_eq_iff hne
  · intro value kind hkind
    have hcode : sqlite.errorCodes.get? kind = none := by
      revert kind
      decide
    exact not_of_kind_without_code hcode value

/-- An error with the code of a primary key in an attribute, behind a text and a truth value that are
no codes there. -/
def repeatedKey : DriverError where
  severity := .ordinary
  tag := "key"
  args := [.text "UNIQUE constraint failed"]
  attributes := [("errno", .bool true), ("sqlite_errorcode", .int 1555), ("code", .int 14)]

theorem folding_joins_codes_of_repeatedKey :
    nativeErrorCode (.raised repeatedKey) = .ok (some (.number 1555)) ∧
      nativeErrorCode (.int 2067) = .ok (some (.number 2067)) ∧
      sqlite.nativeCode (.raised repeatedKey) = sqlite.nativeCode (.int 2067) ∧
      sqlite.classify (.raised repeatedKey) = .ok (some .duplicateRow) ∧
      sqlite.nativeCode (.text "1555") = .ok (some (.word "1555")) ∧
      sqlite.classifyMatches (.int 787) .foreignKeyNoParent = .ok false := by
  obtain ⟨hfolded, hkind, hmerged, hforeign⟩ := folding_joins_uniqueness_codes_only
  have hkey : nativeErrorCode (.raised repeatedKey) = .ok (some (.number 1555)) := rfl
  have hunique : nativeErrorCode (.int 2067) = .ok (some (.number 2067)) := rfl
  have hword : nativeErrorCode (.text "1555") = .ok (some (.word "1555")) := rfl
  refine ⟨hkey, hunique, (hmerged _ _ _ _ hkey hunique (by decide)).mpr ?_,
    (hkind _ _ hkey (by decide)).1, (hfolded _ _ hword).2.2 (by decide),
    (hforeign (.int 787) _ (by decide)).1⟩
  exact ⟨_, by decide, _, by decide, rfl, rfl⟩

end SqlBackend.Dialect
