import SqlBackend.Dialect.Builtin
import SqlBackend.Pool.Build
import SqlBackend.Proofs.Pool.Config
import SqlBackend.Proofs.Pool.Properties
import SqlBackend.Proofs.Pool.Size

/-!
# What a built configuration consists of

`Built` says of every field of a configuration where it comes from, and a configuration is built
exactly when its fields come from there. The properties are `assembled`: the defaults of the dialect,
over them the overrides, and the credentials of the settings over both. The order of the overrides
shows in the records only.
-/

namespace SqlBackend.Pool

open SqlBackend.Action SqlBackend.Text

variable {d : Dialect} {settings : LooseSettings} {overrides : Table String Value}

/-- The properties of a pool before they are checked. -/
def assembled (d : Dialect) (settings : LooseSettings) (overrides : Table String Value) :
    Table String Value :=
  ((overlay d overrides.entries (d.defaultProperties.mapValues fun _ v => .text v)).put "user"
    settings.user).put "password" settings.password.clear

theorem get?_assembled (d : Dialect) (settings : LooseSettings) (overrides : Table String Value)
    (name : String) :
    (assembled d settings overrides).get? name =
      if name = "user" then some settings.user
      else if name = "password" then some settings.password.clear
      else (given d overrides.entries name).or ((d.defaultProperties.get? name).map .text) := by
  by_cases huser : name = "user"
  · subst huser
    rw [assembled, Table.get?_put_of_ne _ _ (by decide), Table.get?_put_self, if_pos rfl]
  · by_cases hpassword : name = "password"
    · subst hpassword
      rw [assembled, Table.get?_put_self, if_neg huser, if_pos rfl]
    · rw [assembled, Table.get?_put_of_ne _ _ (Ne.symm hpassword),
        Table.get?_put_of_ne _ _ (Ne.symm huser), get?_overlay d overrides.distinct,
        Table.get?_mapValues, if_neg huser, if_neg hpassword]

theorem given_or (d : Dialect) (overrides : Table String Value) (name : String)
    (default : Option Value) :
    (given d overrides.entries name).or default =
      if MaySet name ∧ overrides.has (d.propertyPrefix ++ name) then
        overrides.get? (d.propertyPrefix ++ name)
      else default := by
  by_cases hset : MaySet name
  · have hgiven : given d overrides.entries name = overrides.get? (d.propertyPrefix ++ name) :=
      if_pos hset
    cases hget : overrides.get? (d.propertyPrefix ++ name) with
    | none => simp [hgiven, hget, Table.has]
    | some value => simp [hgiven, hget, Table.has, hset]
  · rw [given, if_neg hset, Option.none_or, if_neg (fun h => hset h.1)]

/-- The order of the overrides does not show in the properties. -/
theorem get?_assembled_of_perm {others : Table String Value}
    (h : others.entries.Perm overrides.entries) (name : String) :
    (assembled d settings others).get? name = (assembled d settings overrides).get? name := by
  have hgiven : given d others.entries name = given d overrides.entries name := by
    have hget := Table.get?_eq_of_perm h (d.propertyPrefix ++ name)
    rw [given, given]
    show (if _ then others.get? _ else none) = if _ then overrides.get? _ else none
    rw [hget]
  rw [get?_assembled, get?_assembled, hgiven]

/-- The value that asks for a size. -/
def askedSize (properties : Table String Value) : Value :=
  (properties.get? sizeProperty).getD .null

/-- The records of building a configuration. -/
def buildRecords (d : Dialect) (settings : LooseSettings) (overrides : Table String Value)
    (size : Int) : List Record :=
  overrideRecords d overrides.entries
    ++ (sizeWarnings (askedSize (assembled d settings overrides)) defaultSize ++ [sizeRecord size])

theorem filter_buildRecords (d : Dialect) (settings : LooseSettings)
    (overrides : Table String Value) (size : Int) :
    (buildRecords d settings overrides size).filter (fun r => r.level = .info) =
      overrideRecords d overrides.entries := by
  have hinfos : (overrideRecords d overrides.entries).filter (fun r => r.level = .info) =
      overrideRecords d overrides.entries := by
    rw [List.filter_eq_self]
    intro r hr
    rw [level_of_mem_overrideRecords hr]
    rfl
  have hwarnings (given : Value) :
      (sizeWarnings given defaultSize).filter (fun r => r.level = .info) = [] := by
    rw [List.filter_eq_nil_iff]
    intro r hr
    rw [level_of_mem_sizeWarnings hr]
    decide
  rw [buildRecords, List.filter_append, List.filter_append, hinfos, hwarnings]
  simp [sizeRecord]

/-- Where the fields of a built configuration come from. -/
structure Built (d : Dialect) (settings : LooseSettings) (overrides : Table String Value)
    (config : PoolConfig) : Prop where
  password : ∃ password, settings.password = .secret password
  poolSize : sizeFor (askedSize (assembled d settings overrides)) defaultSize = .ok config.poolSize
  rootUrl : d.rootUrl settings = .ok config.rootUrl
  connectionUrl : ∃ database, settings.database = .text database ∧
    config.connectionUrl = config.rootUrl ++ database
  allTexts : AllTexts (assembled d settings overrides)
  properties : config.properties = texts (assembled d settings overrides)
  driver : config.driver = d.driver
  loggerUrl : config.loggerUrl = none
  supportsStatsCallback : config.supportsStatsCallback = d.supportsStatsCallback
  propertiesSealed : config.propertiesSealed = true

theorem Built.eq {config : PoolConfig} (h : Built d settings overrides config) :
    config = PoolConfig.mk d.driver config.rootUrl config.connectionUrl none
      d.supportsStatsCallback config.poolSize (texts (assembled d settings overrides)) true := by
  rw [← h.driver, ← h.loggerUrl, ← h.supportsStatsCallback, ← h.properties, ← h.propertiesSealed]

theorem run_connectorProperties (d : Dialect) (overrides : Table String Value) (script : Script)
    (world : World) :
    run (connectorProperties d overrides) script world =
      (.ok (overlay d overrides.entries (d.defaultProperties.mapValues fun _ v => .text v)),
        world.extend [] (overrideRecords d overrides.entries)) :=
  run_applyOverrides d overrides.entries _ script world

theorem withCredentials_overlay_eq_ok_iff {properties : Table String Value} :
    withCredentials settings (overlay d overrides.entries
        (d.defaultProperties.mapValues fun _ v => .text v)) = .ok properties ↔
      (∃ password, settings.password = .secret password) ∧
        properties = assembled d settings overrides := by
  rw [withCredentials, LooseSettings.secret, assembled]
  cases settings.password with
  | secret password =>
      constructor
      · intro h
        cases h
        exact ⟨⟨password, rfl⟩, rfl⟩
      · rintro ⟨-, rfl⟩
        rfl
  | plain value =>
      constructor
      · intro h
        cases h
      · rintro ⟨⟨password, hpassword⟩, -⟩
        cases hpassword

theorem check_eq_ok_iff {make : Table String String → Bool → PoolConfig}
    {properties : Table String Value} {config : PoolConfig} :
    (make <$> checkProperties properties <*> pure true).toExcept = .ok config ↔
      AllTexts properties ∧ config = make (texts properties) true := by
  by_cases h : AllTexts properties
  · rw [checkProperties_of_allTexts h]
    constructor
    · intro hconfig
      cases hconfig
      exact ⟨h, rfl⟩
    · rintro ⟨-, rfl⟩
      rfl
  · obtain ⟨complaints, hinvalid⟩ := exists_checkProperties_eq_invalid h
    rw [hinvalid]
    constructor
    · intro hconfig
      cases hconfig
    · rintro ⟨hall, -⟩
      exact absurd hall h

theorem unlessSome_text?_eq_ok_iff {fault : Fault} {value : Value} {s : String} :
    fault.unlessSome value.text? = .ok s ↔ value = .text s := by
  cases value with
  | text t =>
      constructor
      · intro h
        cases h
        rfl
      · intro h
        cases h
        rfl
  | _ =>
      constructor
      · intro h
        cases h
      · intro h
        cases h

/-- A configuration is built exactly when all its fields come from where they should. -/
theorem run_buildConfig_eq_ok_iff {config : PoolConfig} {script : Script} {world later : World} :
    run (buildConfig d settings overrides) script world = (.ok config, later) ↔
      Built d settings overrides config ∧
        later = world.extend [] (buildRecords d settings overrides config.poolSize) := by
  rw [buildConfig, run_bind_eq_ok_iff (run_connectorProperties d overrides script world)]
  constructor
  · rintro ⟨_, ⟨⟩, h⟩
    obtain ⟨properties, hproperties, h⟩ := (run_bind_eq_ok_iff rfl).mp h
    obtain ⟨hpassword, rfl⟩ := withCredentials_overlay_eq_ok_iff.mp hproperties
    obtain ⟨size, hsize, h⟩ := (run_bind_eq_ok_iff (run_resolveSize _ _ _ _)).mp h
    obtain ⟨-, -, h⟩ := (run_bind_eq_ok_iff (run_log_eq_extend _ _ _)).mp h
    obtain ⟨url, hurl, h⟩ := (run_bind_eq_ok_iff rfl).mp h
    obtain ⟨database, hdatabase, h⟩ := (run_bind_eq_ok_iff rfl).mp h
    obtain ⟨hcheck, hlater⟩ := Prod.mk.inj h
    obtain ⟨hall, rfl⟩ := check_eq_ok_iff.mp hcheck
    refine ⟨⟨hpassword, hsize, hurl, ⟨database, unlessSome_text?_eq_ok_iff.mp hdatabase, rfl⟩, hall,
      rfl, rfl, rfl, rfl, rfl⟩, ?_⟩
    rw [← hlater, World.extend_extend, World.extend_extend]
    rfl
  · rintro ⟨hbuilt, rfl⟩
    obtain ⟨database, hdatabase, hconnection⟩ := hbuilt.connectionUrl
    refine ⟨_, rfl, (run_bind_eq_ok_iff rfl).mpr ⟨_,
      withCredentials_overlay_eq_ok_iff.mpr ⟨hbuilt.password, rfl⟩, ?_⟩⟩
    refine (run_bind_eq_ok_iff (run_resolveSize _ _ _ _)).mpr ⟨_, hbuilt.poolSize, ?_⟩
    refine (run_bind_eq_ok_iff (run_log_eq_extend _ _ _)).mpr ⟨_, rfl, ?_⟩
    refine (run_bind_eq_ok_iff rfl).mpr ⟨_, hbuilt.rootUrl, (run_bind_eq_ok_iff rfl).mpr ⟨database,
      unlessSome_text?_eq_ok_iff.mpr hdatabase, ?_⟩⟩
    refine Prod.ext (check_eq_ok_iff.mpr ⟨hbuilt.allTexts, ?_⟩) ?_
    · rw [← hconnection]
      exact hbuilt.eq
    · rw [World.extend_extend, World.extend_extend]
      rfl

/-- Building makes no calls, and leaves records only. -/
theorem silent_buildConfig (d : Dialect) (settings : LooseSettings)
    (overrides : Table String Value) : Silent (buildConfig d settings overrides) := by
  have hconnector : Silent (connectorProperties d overrides) := fun script world =>
    ⟨_, _, run_connectorProperties d overrides script world⟩
  have hresolve (given : Value) : Silent (resolveSize given defaultSize) := fun script world =>
    ⟨_, _, run_resolveSize given defaultSize script world⟩
  refine hconnector.bind fun properties => ?_
  refine (silent_ofExcept (withCredentials settings properties)).bind fun properties => ?_
  refine (hresolve _).bind fun size => (silent_log (sizeRecord size)).bind fun _ => ?_
  refine (silent_ofExcept (d.rootUrl settings)).bind fun url => ?_
  exact (silent_ofExcept _).bind fun database => silent_ofExcept _

/-- Keys that do not start as the overrides do are as good as absent. -/
theorem buildConfig_congr {others : Table String Value}
    (h : others.filterKeys (isPrefixed d) = overrides.filterKeys (isPrefixed d)) :
    buildConfig d settings others = buildConfig d settings overrides := by
  have hconnector : connectorProperties d others = connectorProperties d overrides := by
    have hentries := congrArg Table.entries h
    rw [connectorProperties, connectorProperties, ← applyOverrides_filter d others.entries,
      ← applyOverrides_filter d overrides.entries]
    exact congrArg (applyOverrides d · _) hentries
  rw [buildConfig, buildConfig, hconnector]

/-- A configuration is built from overrides in another order as well. -/
theorem Built.reorder {config : PoolConfig} (h : Built d settings overrides config)
    {others : Table String Value} (hperm : others.entries.Perm overrides.entries) :
    Built d settings others { config with properties := texts (assembled d settings others) } := by
  have hget (name : String) : (assembled d settings others).get? name =
      (assembled d settings overrides).get? name := get?_assembled_of_perm hperm name
  have hsize := h.poolSize
  rw [askedSize, ← hget] at hsize
  exact ⟨h.password, hsize, h.rootUrl, h.connectionUrl, h.allTexts.congr hget, rfl, h.driver,
    h.loggerUrl, h.supportsStatsCallback, h.propertiesSealed⟩

/-- The properties of a built configuration are the credentials of the settings, under other names
what the overrides have under the beginning of the dialect and the name, and the defaults otherwise.
The overrides that set a property are written down one by one in their order, and beyond that neither
their order nor what else is among them matters. -/
theorem buildConfig_properties {config : PoolConfig} {script : Script} {world later : World}
    (h : run (buildConfig d settings overrides) script world = (.ok config, later)) :
    (∀ name, (config.properties.get? name).map Value.text =
      if name = "user" then some settings.user
      else if name = "password" then some settings.password.clear
      else if (name ≠ "" ∧ lower name ≠ "logger") ∧ overrides.has (d.propertyPrefix ++ name) then
        overrides.get? (d.propertyPrefix ++ name)
      else (d.defaultProperties.get? name).map .text) ∧
    (∀ key name, overrideName? d key = some name ↔
      key = d.propertyPrefix ++ name ∧ name ≠ "" ∧ lower name ≠ "logger") ∧
    (later.records.filter (fun r => r.level = .info) =
      world.records.filter (fun r => r.level = .info) ++
        overrides.entries.filterMap fun entry => (overrideName? d entry.1).map fun name =>
          { level := .info
            origin := .pool
            message := "Setting " ++ d.name ++ " connector property: " ++ name ++ "=" ++
              if lower name = "user" ∨ lower name = "password" then "****"
              else entry.2.shown : Record }) ∧
    (∀ others : Table String Value,
      others.filterKeys (isPrefixed d) = overrides.filterKeys (isPrefixed d) →
        buildConfig d settings others = buildConfig d settings overrides) ∧
    ∀ others : Table String Value, others.entries.Perm overrides.entries →
      ∃ config' later', run (buildConfig d settings others) script world = (.ok config', later') ∧
        config'.loose.same (fun _ => false) config.loose = true ∧
        (∀ name, config'.properties.get? name = config.properties.get? name) ∧
        config'.poolSize = config.poolSize := by
  obtain ⟨hbuilt, rfl⟩ := run_buildConfig_eq_ok_iff.mp h
  refine ⟨fun name => ?_, fun key name => overrideName?_eq_some_iff, ?_,
    fun others hothers => buildConfig_congr hothers, fun others hperm => ?_⟩
  · rw [hbuilt.properties, get?_texts hbuilt.allTexts, get?_assembled, given_or]
    rfl
  · simp only [World.records_extend, List.filter_append, filter_buildRecords, overrideRecords,
      overrideRecord_eq]
  · have hget (name : String) : (texts (assembled d settings others)).get? name =
        config.properties.get? name := by
      rw [hbuilt.properties, texts, texts, Table.get?_mapValues, Table.get?_mapValues,
        get?_assembled_of_perm hperm]
    exact ⟨_, _, run_buildConfig_eq_ok_iff.mpr ⟨hbuilt.reorder hperm, rfl⟩,
      PoolConfig.same_of_get?_eq rfl hget, hget, rfl⟩

/-- Overrides of which one sets a property, one is hidden by a credential, one is for others, one has
the name that none may set, and one has no name. -/
def sampleOverrides : Table String Value :=
  ⟨[("mysql_connector_read_timeout", .text "30"), ("unrelated", .text "x"),
    ("mysql_connector_Logger", .text "own"), ("mysql_connector_", .text "none"),
    ("mysql_connector_user", .text "root")], by decide⟩

theorem buildConfig_properties_of_sampleOverrides :
    ∃ config later,
      run (buildConfig .mysql ({} : Settings).loose sampleOverrides) {} {} = (.ok config, later) ∧
      (config.properties.get? "read_timeout").map Value.text = some (.text "30") ∧
      (config.properties.get? "user").map Value.text = some (.text "store") ∧
      (config.properties.get? "charset").map Value.text = some (.text "utf8mb4") ∧
      (config.properties.get? "Logger").map Value.text = none ∧
      later.records.filter (fun r => r.level = .info) =
        [{ level := .info
           origin := .pool
           message := "Setting mysql connector property: read_timeout=30" },
          { level := .info
            origin := .pool
            message := "Setting mysql connector property: user=****" }] := by
  have hbuilt : ∃ config later, run (buildConfig .mysql ({} : Settings).loose sampleOverrides) {} {} =
      (.ok config, later) := ⟨_, _, rfl⟩
  obtain ⟨config, later, h⟩ := hbuilt
  obtain ⟨hget, -, hrecords, -, -⟩ := buildConfig_properties h
  exact ⟨config, later, h, hget "read_timeout", hget "user", hget "charset", hget "Logger", hrecords⟩

end SqlBackend.Pool
