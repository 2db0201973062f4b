import SqlBackend.Dialect.Registry
import SqlBackend.Pool.Build
import SqlBackend.Proofs.Text.Case
import SqlBackend.Proofs.Text.Trim
import SqlBackend.Proofs.Written

/-!
# Schemes and the dialects that own them

`SchemeParts` is a scheme taken apart: the name of a backend, with blanks around it, and what begins with
the first plus. Every text is a scheme that can be taken apart like this. All that counts of it is the
name in lower case, and no name is owned by two of the engines, so it does not matter in which order they
are asked.
-/

namespace SqlBackend

open SqlBackend.Text

namespace Dialect

/-- The names that a dialect goes by. -/
def names (d : Dialect) : List String := d.schemes ++ d.aliases

theorem answersTo_iff {d : Dialect} {name : String} : d.answersTo name = true ↔ name ∈ d.names := by
  simp [answersTo, names]

/-- No name is owned by two engines. -/
theorem eq_of_mem_names {engine other : Engine} {name : String} (h : name ∈ engine.dialect.names)
    (hother : name ∈ other.dialect.names) : engine = other := by
  have hapart : ∀ engine ∈ Engine.all, ∀ other ∈ Engine.all,
      ∀ name ∈ engine.dialect.names, name ∈ other.dialect.names → engine = other := by
    decide
  exact hapart engine engine.mem_all other other.mem_all name h hother

theorem mem_names_of_engineOfName? {name : String} {engine : Engine}
    (h : engineOfName? name = some engine) : name ∈ engine.dialect.names :=
  answersTo_iff.mp (List.find?_some (p := fun engine : Engine => engine.dialect.answersTo name) h)

theorem engineOfName?_eq_some_iff {name : String} {engine : Engine} :
    engineOfName? name = some engine ↔ name ∈ engine.dialect.names := by
  refine ⟨mem_names_of_engineOfName?, fun h => ?_⟩
  cases hfound : engineOfName? name with
  | none =>
      have hnone := List.find?_eq_none.mp hfound engine engine.mem_all
      exact absurd (answersTo_iff.mpr h) hnone
  | some first => rw [eq_of_mem_names (mem_names_of_engineOfName? hfound) h]

end Dialect

/-- A scheme taken apart. -/
structure SchemeParts where
  /-- The blanks in front of the name. -/
  before : List Char
  /-- The name of a backend. -/
  core : List Char
  /-- The blanks behind the name. -/
  after : List Char
  /-- The plus and all that follows it, if there is one. -/
  rest : List Char
  blank_before : ∀ c ∈ before, isBlank c = true
  trimmed : IsTrimmed isBlank core
  blank_after : ∀ c ∈ after, isBlank c = true
  no_plus : '+' ∉ core
  rest_plus : ∀ c ∈ rest.head?, c = '+'

namespace SchemeParts

/-- The scheme put together again. -/
def scheme (parts : SchemeParts) : String :=
  String.ofList (parts.before ++ parts.core ++ parts.after ++ parts.rest)

/-- The name in lower case. -/
def name (parts : SchemeParts) : String := String.ofList (lowerChars parts.core)

/-- Whether a character does not end the name. -/
def isNamed (c : Char) : Bool := c != '+'

theorem isNamed_of_isBlank {c : Char} (h : isBlank c = true) : isNamed c = true := by
  rw [isNamed, bne_iff_ne]
  rintro rfl
  exact absurd h (by decide)

/-- Every scheme can be taken apart. -/
theorem exists_scheme (scheme : String) : ∃ parts : SchemeParts, parts.scheme = scheme := by
  obtain ⟨before, after, hfront, hbefore, hafter⟩ :=
    exists_eq_append_trim isBlank (scheme.toList.takeWhile isNamed)
  have hplus : '+' ∉ trim isBlank (scheme.toList.takeWhile isNamed) := by
    intro hmem
    have hfrontMem : '+' ∈ scheme.toList.takeWhile isNamed := by
      rw [hfront]
      simp [hmem]
    exact absurd (List.mem_takeWhile_imp hfrontMem) (by decide)
  have hrest : ∀ c ∈ (scheme.toList.dropWhile isNamed).head?, c = '+' := by
    intro c hc
    simpa [isNamed] using head?_dropWhile hc
  refine ⟨⟨before, _, after, _, hbefore, isTrimmed_trim isBlank _, hafter, hplus, hrest⟩, ?_⟩
  rw [SchemeParts.scheme, ← hfront, List.takeWhile_append_dropWhile, String.ofList_toList]

variable (parts : SchemeParts)

/-- What stands before the first plus is the name and the blanks around it. -/
theorem takeWhile_scheme :
    parts.scheme.toList.takeWhile isNamed = parts.before ++ parts.core ++ parts.after := by
  have hfront : ∀ c ∈ parts.before ++ parts.core ++ parts.after, isNamed c = true := by
    simp only [List.mem_append]
    rintro c ((hbefore | hcore) | hafter)
    · exact isNamed_of_isBlank (parts.blank_before c hbefore)
    · exact bne_iff_ne.mpr (ne_of_mem_of_not_mem hcore parts.no_plus)
    · exact isNamed_of_isBlank (parts.blank_after c hafter)
  rw [scheme, String.toList_ofList, List.takeWhile_append_of_pos hfront]
  cases hrest : parts.rest with
  | nil => simp
  | cons c rest =>
      have hplus : c = '+' := parts.rest_plus c (by rw [hrest]; rfl)
      simp [hplus, isNamed]

theorem normalizedScheme_scheme : Dialect.normalizedScheme parts.scheme = parts.name := by
  have htrim : trim isBlank (parts.scheme.toList.takeWhile isNamed) = parts.core := by
    rw [takeWhile_scheme, trim_between parts.blank_before parts.trimmed parts.blank_after]
  exact congrArg (fun cs => String.ofList (lowerChars cs)) htrim

end SchemeParts

namespace Dialect

theorem ofGivenScheme_eq_ok_iff (parts : SchemeParts) {d : Dialect} :
    ofGivenScheme (.text parts.scheme) = .ok d ↔
      ∃ engine : Engine, engine.dialect = d ∧ parts.name ∈ engine.dialect.names := by
  have hname : ofScheme? parts.scheme = (engineOfName? parts.name).map Engine.dialect := by
    rw [ofScheme?, parts.normalizedScheme_scheme]
  rw [ofGivenScheme, hname]
  cases hengine : engineOfName? parts.name with
  | none =>
      have hnone : ∀ engine : Engine, parts.name ∉ engine.dialect.names := by
        intro engine hmem
        rw [engineOfName?_eq_some_iff.mpr hmem] at hengine
        cases hengine
      simp [Fault.unlessSome, hnone]
  | some engine =>
      have howner := engineOfName?_eq_some_iff.mp hengine
      rw [Option.map_some, Fault.unlessSome, Except.ok.injEq]
      constructor
      · rintro rfl
        exact ⟨engine, rfl, howner⟩
      · rintro ⟨other, rfl, hother⟩
        rw [eq_of_mem_names howner hother]

/-- A scheme that is refused is refused as it was given. -/
theorem ofGivenScheme_eq_error_iff (scheme : String) {fault : Fault} :
    ofGivenScheme (.text scheme) = .error fault ↔
      (∀ d, ofGivenScheme (.text scheme) ≠ .ok d) ∧ fault = .unsupportedScheme (.text scheme) := by
  rw [ofGivenScheme]
  cases ofScheme? scheme with
  | none => simp [Fault.unlessSome, eq_comm]
  | some d => simp [Fault.unlessSome]

theorem ofGivenScheme_eq_unsupported_iff (parts : SchemeParts) :
    ofGivenScheme (.text parts.scheme) = .error (.unsupportedScheme (.text parts.scheme)) ↔
      ∀ engine : Engine, parts.name ∉ engine.dialect.names := by
  simp only [ofGivenScheme_eq_error_iff, ne_eq, ofGivenScheme_eq_ok_iff, not_exists, not_and,
    and_true]
  exact ⟨fun h engine => h _ engine rfl, fun h _ engine _ => h engine⟩

/-- A name that a dialect goes by stands for it as it is. -/
theorem ofGivenScheme_of_mem_names {engine : Engine} {name : String}
    (h : name ∈ engine.dialect.names) : ofGivenScheme (.text name) = .ok engine.dialect := by
  have hnormalized : ∀ engine ∈ Engine.all, ∀ name ∈ engine.dialect.names,
      normalizedScheme name = name := by
    decide +kernel
  rw [ofGivenScheme, ofScheme?, hnormalized engine engine.mem_all name h,
    engineOfName?_eq_some_iff.mpr h]
  rfl

/-- The address of a server begins with the first of the dialect's schemes. -/
theorem rootUrl_of_schemes {d : Dialect} {scheme : String} {others : List String}
    (hengine : d.engine ≠ some .sqlite) (hschemes : d.schemes = scheme :: others)
    (settings : LooseSettings) :
    d.rootUrl settings = (do
      let host ← settings.host.written
      let port ← (d.port settings).written
      return scheme ++ "://" ++ host ++ ":" ++ port ++ "/") := by
  simp only [rootUrl, hschemes]

/-- An address that is written begins with the scheme, and one that is not has a numeral that is too
long. -/
theorem rootUrl_cases {d : Dialect} {scheme : String} {others : List String}
    (hengine : d.engine ≠ some .sqlite) (hschemes : d.schemes = scheme :: others)
    (settings : LooseSettings) :
    (∃ rest, d.rootUrl settings = .ok (scheme ++ "://" ++ rest)) ∨
      d.rootUrl settings = .error (.numeralTooLong none) ∧
        (settings.host.shown? = none ∨ (d.port settings).shown? = none) := by
  rw [rootUrl_of_schemes hengine hschemes]
  cases hhost : settings.host.shown? with
  | none => exact .inr ⟨by rw [Value.written_of_shown?_eq_none hhost]; rfl, .inl rfl⟩
  | some host =>
      rw [Value.written_eq_ok_iff.mpr hhost]
      cases hport : (d.port settings).shown? with
      | none => exact .inr ⟨by rw [Value.written_of_shown?_eq_none hport]; rfl, .inr rfl⟩
      | some port =>
          refine .inl ⟨host ++ ":" ++ port ++ "/", ?_⟩
          rw [Value.written_eq_ok_iff.mpr hport]
          show Except.ok (scheme ++ "://" ++ host ++ ":" ++ port ++ "/") = _
          simp only [String.append_assoc]

/-- The first scheme of an engine, which its addresses begin with. -/
theorem exists_scheme_of_rootUrl (engine : Engine) :
    ∃ scheme ∈ engine.dialect.names, ':' ∉ scheme.toList ∧ ∀ settings : LooseSettings,
      (∃ rest, engine.dialect.rootUrl settings = .ok (scheme ++ "://" ++ rest)) ∨
        engine.dialect.rootUrl settings = .error (.numeralTooLong none) ∧
          (settings.host.shown? = none ∨ (engine.dialect.port settings).shown? = none) := by
  cases engine with
  | mysql => exact ⟨"mysql", by decide, by decide, rootUrl_cases (by decide) rfl⟩
  | oracle => exact ⟨"oracle", by decide, by decide, rootUrl_cases (by decide) rfl⟩
  | sqlite => exact ⟨"sqlite", by decide, by decide, fun settings => .inl ⟨"/", rfl⟩⟩

/-- The port that is asked for can be written if the settings have none that is too long. -/
theorem exists_shown?_port (engine : Engine) {settings : LooseSettings}
    (h : settings.port.IsBounded) : ∃ text, (engine.dialect.port settings).shown? = some text := by
  rw [port]
  split
  · exact Value.exists_shown? h
  · cases engine <;> exact ⟨_, rfl⟩

/-- Every scheme is taken apart into blanks, a name, blanks and what begins with the first plus. It
stands for the dialect that goes by the name in lower case, which is at most one, and it is refused as
it was given when there is none. Blanks, the case of ASCII letters and what follows the plus do not
matter. The scheme in the address of a server stands for the dialect that the address was made by, and
there is such an address unless its host or its port has a numeral of more than 4300 digits. -/
theorem scheme_stands_for_owner :
    (∀ scheme : String, ∃ parts : SchemeParts, parts.scheme = scheme) ∧
    (∀ (parts : SchemeParts) (d : Dialect), ofGivenScheme (.text parts.scheme) = .ok d ↔
      ∃ engine : Engine, engine.dialect = d ∧
        (parts.name ∈ engine.dialect.schemes ∨ parts.name ∈ engine.dialect.aliases)) ∧
    (∀ parts : SchemeParts,
      ofGivenScheme (.text parts.scheme) = .error (.unsupportedScheme (.text parts.scheme)) ↔
        ∀ engine : Engine,
          parts.name ∉ engine.dialect.schemes ∧ parts.name ∉ engine.dialect.aliases) ∧
    (∀ scheme : String, (Fault.unsupportedScheme (.text scheme)).message =
      some ("Unsupported database scheme: " ++ scheme)) ∧
    (∀ (engine other : Engine) (name : String), name ∈ engine.dialect.names →
      name ∈ other.dialect.names → engine = other) ∧
    (∀ parts others : SchemeParts,
      parts.core.map asciiLower = others.core.map asciiLower →
      ∀ d, ofGivenScheme (.text parts.scheme) = .ok d ↔
        ofGivenScheme (.text others.scheme) = .ok d) ∧
    ∀ engine : Engine, ∃ scheme : String, ':' ∉ scheme.toList ∧
      ofGivenScheme (.text scheme) = .ok engine.dialect ∧
      ∀ settings : LooseSettings,
        (settings.host.IsBounded → settings.port.IsBounded →
          ∃ rest, engine.dialect.rootUrl settings = .ok (scheme ++ "://" ++ rest)) ∧
        (∀ url, engine.dialect.rootUrl settings = .ok url → ∃ rest, url = scheme ++ "://" ++ rest) ∧
        ∀ fault, engine.dialect.rootUrl settings = .error fault → fault = .numeralTooLong none := by
  refine ⟨SchemeParts.exists_scheme, fun parts d => ?_, fun parts => ?_, fun scheme => rfl,
    fun engine other name h hother => eq_of_mem_names h hother, ?_, fun engine => ?_⟩
  · simpa [names] using ofGivenScheme_eq_ok_iff parts
  · simpa [names] using ofGivenScheme_eq_unsupported_iff parts
  · intro parts others hcase d
    have hname : parts.name = others.name := congrArg String.ofList (lowerChars_congr hcase)
    rw [ofGivenScheme_eq_ok_iff, ofGivenScheme_eq_ok_iff, hname]
  · obtain ⟨scheme, hscheme, hcolon, hcases⟩ := exists_scheme_of_rootUrl engine
    refine ⟨scheme, hcolon, ofGivenScheme_of_mem_names hscheme, fun settings => ?_⟩
    rcases hcases settings with ⟨rest, hurl⟩ | ⟨hfault, hunwritten⟩
    · rw [hurl]
      refine ⟨fun _ _ => ⟨rest, rfl⟩, ?_, ?_⟩
      · rintro url ⟨⟩
        exact ⟨rest, rfl⟩
      · rintro fault ⟨⟩
    · rw [hfault]
      refine ⟨fun hhost hport => ?_, ?_, ?_⟩
      · obtain ⟨host, hhost⟩ := Value.exists_shown? hhost
        obtain ⟨port, hport⟩ := exists_shown?_port engine hport
        rw [hhost, hport] at hunwritten
        simp at hunwritten
      · rintro url ⟨⟩
      · rintro fault ⟨⟩
        rfl

/-- The alias of the embedded engine among blanks, in mixed case and with a driver behind it. -/
def mixedParts : SchemeParts where
  before := ['\t']
  core := "EmBedded".toList
  after := ['\u2003']
  rest := "+thin+x".toList
  blank_before := List.forall_mem_singleton.mpr (by decide)
  trimmed := ⟨by rintro c ⟨⟩; decide, by rintro c ⟨⟩; decide⟩
  blank_after := List.forall_mem_singleton.mpr (by decide)
  no_plus := by decide
  rest_plus := by simp

/-- The same alias as it is. -/
def plainParts : SchemeParts where
  before := []
  core := "embedded".toList
  after := []
  rest := []
  blank_before := by simp
  trimmed := ⟨by rintro c ⟨⟩; decide, by rintro c ⟨⟩; decide⟩
  blank_after := by simp
  no_plus := by decide
  rest_plus := by simp

/-- Settings with a host that is no text. -/
def listedHost : LooseSettings :=
  { (default : LooseSettings) with
    host := .list [.text "db"]
    port := .int 3307 }

theorem mixedParts_stand_for_sqlite :
    mixedParts.core.map asciiLower = plainParts.core.map asciiLower ∧
      ofGivenScheme (.text mixedParts.scheme) = .ok Engine.sqlite.dialect ∧
      ∃ scheme rest, ofGivenScheme (.text scheme) = .ok Engine.mysql.dialect ∧
        Dialect.mysql.rootUrl listedHost = .ok (scheme ++ "://" ++ rest) := by
  obtain ⟨-, howner, -, -, -, hcase, hurls⟩ := scheme_stands_for_owner
  have hsame : mixedParts.core.map asciiLower = plainParts.core.map asciiLower := by decide
  have hplain : ofGivenScheme (.text plainParts.scheme) = .ok Engine.sqlite.dialect :=
    (howner plainParts _).mpr ⟨.sqlite, rfl, .inr (by decide +kernel)⟩
  have hhost : listedHost.host.IsBounded := by
    simp [listedHost, Value.IsBounded, Value.AreBounded]
  have hport : listedHost.port.IsBounded := Value.isBounded_int (by decide)
  obtain ⟨scheme, -, howned, hurl⟩ := hurls .mysql
  obtain ⟨rest, hrest⟩ := (hurl listedHost).1 hhost hport
  exact ⟨hsame, (hcase mixedParts plainParts hsame _).mpr hplain, scheme, rest, howned, hrest⟩

end Dialect

end SqlBackend
