import SqlBackend.Proofs.Pool.Validated

/-!
# Sizes that can be resolved

A text that spells a positive number in ASCII digits gives a pool its size, and any other text leaves
the default and a warning. This fails for one kind of texts only: a row of more digits than can be read
is refused, zeros in front counted, although it may spell a small number. A configuration is built with
a positive size, and no size that is asked for keeps it from being built but one that is refused.
-/

namespace SqlBackend.Pool

open SqlBackend.Action SqlBackend.Numeric SqlBackend.Text

variable {s : String} {n : Nat}

/-- A size that is asked for is not zero. -/
theorem pos_of_ofValue_eq_size {given : Value} (h : SizeRequest.ofValue given = .size n) :
    0 < n := by
  cases given with
  | null => cases h
  | text s =>
      by_cases hrow : IsDigitRow s
      · rw [ofValue_of_isDigitRow hrow] at h
        split at h
        · cases h
        · split at h
          · cases h
          · next hne =>
              cases h
              exact Nat.pos_of_ne_zero hne
      · rw [ofValue_of_not_isDigitRow hrow] at h
        cases h
  | _ => cases h

/-- A pool has a positive size if the default is positive. -/
theorem pos_of_sizeFor {given : Value} {default size : Int} (hdefault : 0 < default)
    (h : sizeFor given default = .ok size) : 0 < size := by
  rw [sizeFor] at h
  cases hrequest : SizeRequest.ofValue given with
  | size n =>
      rw [hrequest] at h
      cases h
      exact Int.natCast_pos.mpr (pos_of_ofValue_eq_size hrequest)
  | tooLong digits =>
      rw [hrequest] at h
      cases h
  | nothing | unreadable | zero =>
      rw [hrequest] at h
      cases h
      exact hdefault

section

variable (default : Int) (script : Script) (world : World)

theorem run_resolveSize_of_isOverlong (h : IsOverlong s) :
    run (resolveSize (.text s) default) script world =
      (.error (.numeralTooLong (some (trim isBlank s.toList).length)), world) := by
  rw [run_resolveSize, sizeFor, sizeWarnings, ofValue_of_isOverlong h]
  exact congrArg (Prod.mk _) world.extend_nil

theorem run_resolveSize_of_spellsSize (h : SpellsSize s n) (hshort : ¬ IsOverlong s) :
    run (resolveSize (.text s) default) script world = (.ok (n : Int), world) := by
  rw [run_resolveSize, sizeFor, sizeWarnings, ofValue_of_spellsSize h hshort]
  exact congrArg (Prod.mk _) world.extend_nil

theorem run_resolveSize_of_not_spellsSize (h : ∀ n, ¬ SpellsSize s n) (hshort : ¬ IsOverlong s) :
    ∃ r : Record, r.level = .warning ∧
      run (resolveSize (.text s) default) script world = (.ok default, world.extend [] [r]) := by
  rw [run_resolveSize, sizeFor, sizeWarnings]
  rcases ofValue_of_not_spellsSize h hshort with hrequest | hrequest
  · rw [hrequest]
    exact ⟨_, rfl, rfl⟩
  · rw [hrequest]
    exact ⟨_, rfl, rfl⟩

end

/-- The size that a text asks for can be told unless it is refused. -/
theorem exists_sizeFor_iff {default : Int} :
    (∃ size, sizeFor (.text s) default = .ok size) ↔ ¬ IsOverlong s := by
  constructor
  · rintro ⟨size, hsize⟩ hlong
    rw [sizeFor, ofValue_of_isOverlong hlong] at hsize
    cases hsize
  · intro hshort
    by_cases h : ∃ n, SpellsSize s n
    · obtain ⟨n, hn⟩ := h
      exact ⟨n, by rw [sizeFor, ofValue_of_spellsSize hn hshort]; rfl⟩
    · have hnone : ∀ n, ¬ SpellsSize s n := not_exists.mp h
      rw [sizeFor]
      rcases ofValue_of_not_spellsSize hnone hshort with hrequest | hrequest
      · exact ⟨default, by rw [hrequest]; rfl⟩
      · exact ⟨default, by rw [hrequest]; rfl⟩

variable {d : Dialect}

/-- A configuration is built exactly if the address of the settings can be written and what is asked
for as a size is not refused. -/
theorem exists_buildConfig_iff (settings : Settings) (overrides : Table String String)
    (script : Script) (world : World) :
    (∃ config, (run (buildConfig d settings.loose (asTexts overrides)) script world).1 =
        .ok config) ↔
      (∃ url, d.rootUrl settings.loose = .ok url) ∧
        ∀ text, sizeText? d overrides = some text → ¬ IsOverlong text := by
  have hasked := askedSize_eq_sizeText? d settings overrides
  have hbuilt : (∃ config, (run (buildConfig d settings.loose (asTexts overrides)) script world).1 =
      .ok config) ↔
        (∃ url, d.rootUrl settings.loose = .ok url) ∧
          ∃ size, sizeFor (askedSize (validatedProperties d settings overrides)) defaultSize =
            .ok size := by
    cases hsize : sizeFor (askedSize (validatedProperties d settings overrides)) defaultSize with
    | ok size =>
        cases hurl : d.rootUrl settings.loose with
        | ok url =>
            rw [run_buildConfig_of_size hurl hsize]
            exact ⟨fun _ => ⟨⟨url, rfl⟩, size, rfl⟩, fun _ => ⟨_, rfl⟩⟩
        | error fault =>
            rw [run_buildConfig_of_url_error hurl hsize]
            simp
    | error fault =>
        rw [run_buildConfig_of_size_error hsize]
        simp
  rw [hbuilt, hasked, and_congr_right_iff]
  intro _
  cases sizeText? d overrides with
  | none =>
      constructor
      · intro _ text htext
        cases htext
      · intro _
        exact ⟨defaultSize, rfl⟩
  | some text =>
      show (∃ size, sizeFor (.text text) defaultSize = .ok size) ↔ _
      rw [exists_sizeFor_iff]
      simp

theorem poolSize_pos_of_buildConfig {settings : LooseSettings} {overrides : Table String Value}
    {script : Script} {world : World} {config : PoolConfig}
    (h : (run (buildConfig d settings overrides) script world).1 = .ok config) :
    0 < config.poolSize :=
  pos_of_sizeFor (by decide) (run_buildConfig_eq_ok_iff.mp (Prod.ext h rfl)).1.poolSize

/-- A text comes to the positive size that it spells in ASCII digits, in silence, or else to the default
with one warning, as long as it is no row of more digits than can be read; such a row is refused. No
other size that is asked for keeps a configuration from being built when the address can be written,
and all have a positive size. -/
theorem size_is_resolved_unless_overlong (s : String) {default : Int} (hdefault : 0 < default)
    (settings : Settings) (overrides : Table String String) (script : Script) (world : World) :
    (¬ IsOverlong s → ∃ size records,
      run (resolveSize (.text s) default) script world = (.ok size, world.extend [] records) ∧
        0 < size ∧
        (∀ n : Nat, SpellsSize s n → size = n ∧ records = []) ∧
        ((∀ n, ¬ SpellsSize s n) → size = default ∧
          ∃ r : Record, r.level = .warning ∧ records = [r])) ∧
    (IsOverlong s → run (resolveSize (.text s) default) script world =
      (.error (.numeralTooLong (some (trim isBlank s.toList).length)), world)) ∧
    ((∃ config, (run (buildConfig d settings.loose (asTexts overrides)) script world).1 =
        .ok config) ↔
      (∃ url, d.rootUrl settings.loose = .ok url) ∧
        ∀ text, sizeText? d overrides = some text → ¬ IsOverlong text) ∧
    ∀ config, (run (buildConfig d settings.loose (asTexts overrides)) script world).1 = .ok config →
      0 < config.poolSize := by
  refine ⟨fun hshort => ?_, run_resolveSize_of_isOverlong default script world,
    exists_buildConfig_iff settings overrides script world, fun config => poolSize_pos_of_buildConfig⟩
  by_cases h : ∃ n, SpellsSize s n
  · obtain ⟨n, hn⟩ := h
    have hrun := run_resolveSize_of_spellsSize default script world hn hshort
    refine ⟨n, [], by rw [hrun, World.extend_nil], Int.natCast_pos.mpr hn.positive, ?_, ?_⟩
    · intro m hm
      exact ⟨congrArg Nat.cast (hn.value.symm.trans hm.value), rfl⟩
    · intro hnone
      exact absurd hn (hnone n)
  · have hnone : ∀ n, ¬ SpellsSize s n := not_exists.mp h
    obtain ⟨r, hlevel, hrun⟩ := run_resolveSize_of_not_spellsSize default script world hnone hshort
    refine ⟨default, [r], hrun, hdefault, ?_, ?_⟩
    · intro n hn
      exact absurd hn (hnone n)
    · intro _
      exact ⟨rfl, r, hlevel, rfl⟩

/-- Overrides that ask for no size at all. -/
def zeroSize : Table String String :=
  ⟨[("oracle_connector_maxActive", "0")], by decide⟩

theorem size_is_resolved_of_oddTexts :
    run (resolveSize (.text " 007\t") 5) {} {} = (.ok 7, {}) ∧
      (∃ r : Record, r.level = .warning ∧
        run (resolveSize (.text "٣") 5) {} {} = (.ok 5, ({} : World).extend [] [r])) ∧
      ∃ config, (run (buildConfig .oracle ({} : Settings).loose (asTexts zeroSize)) {} {}).1 =
        .ok config ∧ 0 < config.poolSize := by
  have hurl : Dialect.oracle.rootUrl ({} : Settings).loose = .ok "oracle://localhost:1521/" := rfl
  have hspells : SpellsSize " 007\t" 7 := ⟨⟨by decide, List.all_eq_true.mp rfl⟩, rfl, by decide⟩
  have hother : ∀ n, ¬ SpellsSize "٣" n := by
    intro n h
    exact absurd (h.digits '٣' (by decide)) (by decide)
  obtain ⟨hspelled, -, hbuilt, hpositive⟩ :=
    @size_is_resolved_unless_overlong .oracle " 007\t" 5 (by decide) {} zeroSize {} {}
  obtain ⟨hunread, -⟩ :=
    @size_is_resolved_unless_overlong .oracle "٣" 5 (by decide) {} zeroSize {} {}
  obtain ⟨size, records, hrun, -, hsize, -⟩ := hspelled fun h => absurd h.long (by decide)
  obtain ⟨rfl, rfl⟩ := hsize 7 hspells
  obtain ⟨size, records, hrun', -, -, hdefault⟩ := hunread fun h => absurd h.long (by decide)
  obtain ⟨rfl, r, hlevel, rfl⟩ := hdefault hother
  have hshort : ∀ text, sizeText? .oracle zeroSize = some text → ¬ IsOverlong text := by
    rintro text ⟨⟩ h
    exact absurd h.long (by decide)
  obtain ⟨config, hconfig⟩ := hbuilt.mpr ⟨⟨_, hurl⟩, hshort⟩
  exact ⟨hrun, ⟨r, hlevel, hrun'⟩, config, hconfig, hpositive config hconfig⟩

theorem ofDigitValues_replicate_zero (n : Nat) : ofDigitValues (List.replicate n 0) = 0 := by
  induction n with
  | zero => rfl
  | succ n ih => rw [List.replicate_succ', ofDigitValues_append_singleton, ih]

/-- The number one with so many zeros in front that it has one digit more than can be read. -/
def paddedSize : String := String.ofList (List.replicate maxDigits '0' ++ ['1'])

theorem isAsciiDigit_of_mem_paddedSize :
    ∀ c ∈ List.replicate maxDigits '0' ++ ['1'], isAsciiDigit c = true := by
  intro c hc
  rcases List.mem_append.mp hc with hzero | hone
  · rw [List.eq_of_mem_replicate hzero]
    decide
  · rw [List.mem_singleton.mp hone]
    decide

theorem spellsSize_paddedSize : SpellsSize paddedSize 1 := by
  have hrow := trim_ofList_digits isAsciiDigit_of_mem_paddedSize
  refine ⟨⟨?_, ?_⟩, ?_, by decide⟩
  · rw [paddedSize, hrow]
    simp
  · rw [paddedSize, hrow]
    exact isAsciiDigit_of_mem_paddedSize
  · rw [paddedSize, hrow, ofAsciiDigits, List.map_append, List.map_replicate]
    exact (ofDigitValues_append_singleton _ 1).trans (by
      rw [show '0'.toNat - 0x30 = 0 from rfl, ofDigitValues_replicate_zero])

/-- Overrides that ask for a padded size. -/
def paddedOverrides : Table String String :=
  ⟨[("mysql_connector_maxActive", paddedSize)], List.nodup_singleton _⟩

/-- A text that spells a size is refused, and nothing is built from settings with it. -/
theorem size_refused_for_paddedSize :
    SpellsSize paddedSize 1 ∧
      run (resolveSize (.text paddedSize) 100) {} {} = (.error (.numeralTooLong (some 4301)), {}) ∧
      ¬ ∃ config, (run (buildConfig .mysql ({} : Settings).loose (asTexts paddedOverrides)) {} {}).1 =
        .ok config := by
  have hrow : trim isBlank paddedSize.toList = List.replicate maxDigits '0' ++ ['1'] :=
    trim_ofList_digits isAsciiDigit_of_mem_paddedSize
  have hlength : (trim isBlank paddedSize.toList).length = 4301 := by
    rw [hrow, List.length_append, List.length_replicate]
    rfl
  have hlong : IsOverlong paddedSize :=
    ⟨spellsSize_paddedSize.digits, by rw [hlength]; decide⟩
  refine ⟨spellsSize_paddedSize, ?_, ?_⟩
  · rw [run_resolveSize_of_isOverlong 100 {} {} hlong, hlength]
  · rw [exists_buildConfig_iff]
    rintro ⟨-, hshort⟩
    exact hshort paddedSize rfl hlong

end SqlBackend.Pool
