import SqlBackend.Proofs.Credential.Flow
import SqlBackend.Proofs.Credential.Withheld

/-!
# Credentials do not show

Two settings that differ in the credentials, and two tables of overrides that differ in what they have
for credentials, build configurations that are the same when redacted, with the same records. An
override that sets a property `mysql_connector_USER` is such a one: its record is masked, and its value
becomes an argument.
-/

namespace SqlBackend

open SqlBackend.Action SqlBackend.Pool SqlBackend.Text

/-- The settings with other credentials. -/
def Settings.withLogin (s : Settings) (user password : String) : Settings :=
  { s with user := user, password := password }

namespace Pool

variable {d : Dialect}

theorem maySet_of_hides {name : String} (h : hides name = true) : MaySet name := by
  constructor
  · rintro rfl
    exact absurd h (by decide)
  · intro hreserved
    rw [hides, hreserved] at h
    exact absurd h (by decide)

/-- What an override puts in, as an image of its value. -/
def mapOverride (d : Dialect) (f : String → Value → Value) (key : String) (value : Value) : Value :=
  match overrideName? d key with
  | some name => f name value
  | none => value

/-- Replacing the values of the properties is replacing them before they are put in. -/
theorem mapValues_overlay (f : String → Value → Value) (entries : List (String × Value))
    (t : Table String Value) :
    (overlay d entries t).mapValues f =
      overlay d (entries.map fun entry => (entry.1, mapOverride d f entry.1 entry.2))
        (t.mapValues f) := by
  induction entries generalizing t with
  | nil => rfl
  | cons entry rest ih =>
      obtain ⟨key, value⟩ := entry
      rw [List.map_cons]
      cases hname : overrideName? d key with
      | none => rw [overlay_cons_of_none hname, overlay_cons_of_none hname, ih]
      | some name =>
          have hvalue : mapOverride d f key value = f name value := by
            rw [mapOverride, hname]
          rw [overlay_cons_of_some hname, overlay_cons_of_some hname, ih, Table.mapValues_put, hvalue]

theorem overrideRecord_redactValue (name : String) (value : Value) :
    overrideRecord d name (redactValue name value) = overrideRecord d name value := by
  cases h : hides name with
  | true =>
      have hlower : isCredential (lower name) = true := h
      rw [overrideRecord, overrideRecord, hlower]
      rfl
  | false => rw [redactValue_of_not_hides h]

/-- The records of the overrides show nothing that redacting takes away. -/
theorem overrideRecords_redacted (entries : List (String × Value)) :
    overrideRecords d (entries.map fun entry =>
      (entry.1, mapOverride d redactValue entry.1 entry.2)) = overrideRecords d entries := by
  rw [overrideRecords, overrideRecords, List.filterMap_map]
  apply List.filterMap_congr
  intro entry _
  show (overrideName? d entry.1).map (fun name => overrideRecord d name
    (mapOverride d redactValue entry.1 entry.2)) = _
  cases hname : overrideName? d entry.1 with
  | none => rfl
  | some name =>
      rw [mapOverride, hname]
      exact congrArg some (overrideRecord_redactValue name entry.2)

/-- Overrides with the same keys in the same order and, except under the keys that set a credential,
the same values. -/
structure AgreeButCredentials (d : Dialect) (overrides others : Table String String) : Prop where
  keys : others.keys = overrides.keys
  get? : ∀ key, (∀ name, key = d.propertyPrefix ++ name → isCredential (lower name) = false) →
    others.get? key = overrides.get? key

theorem mapOverride_of_hides {name : String} (h : hides name = true) (value : Value) :
    mapOverride d redactValue (d.propertyPrefix ++ name) value = .text "" := by
  rw [mapOverride, overrideName?_append, if_pos (maySet_of_hides h)]
  exact redactValue_of_hides h value

variable {s : Settings} {overrides others : Table String String}

/-- Overrides that agree but for credentials are the same when redacted. -/
theorem AgreeButCredentials.redacted (h : AgreeButCredentials d overrides others) :
    (asTexts others).mapValues (mapOverride d redactValue) =
      (asTexts overrides).mapValues (mapOverride d redactValue) := by
  apply Table.ext_keys_get?
  · rw [Table.keys_mapValues, Table.keys_mapValues, keys_asTexts, keys_asTexts, h.keys]
  intro key
  rw [Table.get?_mapValues, Table.get?_mapValues, get?_asTexts, get?_asTexts]
  by_cases hcredential : ∃ name, key = d.propertyPrefix ++ name ∧ hides name = true
  · obtain ⟨name, rfl, hhides⟩ := hcredential
    have hmem : d.propertyPrefix ++ name ∈ others.keys ↔ d.propertyPrefix ++ name ∈ overrides.keys := by
      rw [h.keys]
    rw [Table.mem_keys_iff, Table.mem_keys_iff] at hmem
    have hmap (value : Option String) : (value.map Value.text).map
        (mapOverride d redactValue (d.propertyPrefix ++ name)) =
          if value.isSome then some (.text "") else none := by
      cases value with
      | none => rfl
      | some s => exact congrArg some (mapOverride_of_hides hhides (.text s))
    rw [hmap, hmap]
    exact if_congr hmem rfl rfl
  · have hget : others.get? key = overrides.get? key := by
      apply h.get? key
      intro name hkey
      rw [← Bool.not_eq_true]
      exact fun hhides => hcredential ⟨name, hkey, hhides⟩
    rw [hget]

theorem overrideRecords_congr (h : AgreeButCredentials d overrides others) :
    overrideRecords d (asTexts others).entries = overrideRecords d (asTexts overrides).entries := by
  have hentries := congrArg Table.entries h.redacted
  rw [← overrideRecords_redacted, ← overrideRecords_redacted (asTexts overrides).entries]
  exact congrArg (overrideRecords d) hentries

/-- The properties are the same when redacted, their order included. -/
theorem redacted_validatedProperties (h : AgreeButCredentials d overrides others)
    (user password : String) :
    (validatedProperties d (s.withLogin user password) others).mapValues redactValue =
      (validatedProperties d s overrides).mapValues redactValue := by
  have hoverlay (t : Table String Value) : (overlay d (asTexts others).entries t).mapValues
      redactValue = (overlay d (asTexts overrides).entries t).mapValues redactValue := by
    have hentries := congrArg Table.entries h.redacted
    rw [mapValues_overlay, mapValues_overlay]
    exact congrArg (overlay d · (t.mapValues redactValue)) hentries
  have huser (value : Value) : redactValue "user" value = .text "" :=
    redactValue_of_hides (by decide) value
  have hpassword (value : Value) : redactValue "password" value = .text "" :=
    redactValue_of_hides (by decide) value
  rw [validatedProperties, validatedProperties, assembled, assembled, Table.mapValues_put,
    Table.mapValues_put, Table.mapValues_put, Table.mapValues_put, hoverlay, huser, huser, hpassword,
    hpassword]

/-- The size is no credential. -/
theorem askedSize_congr {t u : Table String Value}
    (h : t.mapValues redactValue = u.mapValues redactValue) : askedSize t = askedSize u := by
  have hsize (value : Value) : redactValue sizeProperty value = value :=
    redactValue_of_not_hides (by decide) value
  have hget (t : Table String Value) : (t.mapValues redactValue).get? sizeProperty =
      t.get? sizeProperty := by
    rw [Table.get?_mapValues, funext hsize]
    exact Option.map_id'
  rw [askedSize, askedSize, ← hget t, h, hget]

theorem mapValues_texts (t : Table String Value) :
    (texts t).mapValues redactText = texts (t.mapValues redactValue) := by
  apply Table.ext_entries
  show (t.entries.map _).map _ = (t.entries.map _).map _
  rw [List.map_map, List.map_map]
  apply List.map_congr_left
  intro entry _
  exact congrArg (Prod.mk entry.1) (shown_redactValue entry.1 entry.2).symm

/-- Configurations are built that are the same when redacted, from the same world and with the same
records, or none is built for the same reason. -/
theorem map_redacted_buildConfig {engine : Engine}
    (h : AgreeButCredentials engine.dialect overrides others) (user password : String) :
    PoolConfig.redacted <$>
        buildConfig engine.dialect (s.withLogin user password).loose (asTexts others) =
      PoolConfig.redacted <$> buildConfig engine.dialect s.loose (asTexts overrides) := by
  have hproperties := @redacted_validatedProperties _ s _ _ h user password
  have hasked := askedSize_congr hproperties
  -- The address is made of the host and the port, so both settings have the same.
  have hurls : engine.dialect.rootUrl (s.withLogin user password).loose =
      engine.dialect.rootUrl s.loose := rfl
  funext script world
  show run _ script world = run _ script world
  rw [run_map, run_map]
  cases hsize : sizeFor (askedSize (validatedProperties engine.dialect s overrides)) defaultSize with
  | error fault =>
      have hsize' := hsize
      rw [← hasked] at hsize'
      rw [run_buildConfig_of_size_error hsize, run_buildConfig_of_size_error hsize', hasked,
        overrideRecords_congr h]
  | ok size =>
      have hsize' := hsize
      rw [← hasked] at hsize'
      have hrecords :
          buildRecords engine.dialect (s.withLogin user password).loose (asTexts others) size =
            buildRecords engine.dialect s.loose (asTexts overrides) size := by
        show _ ++ (sizeWarnings (askedSize (validatedProperties _ _ _)) _ ++ _) =
          _ ++ (sizeWarnings (askedSize (validatedProperties _ _ _)) _ ++ _)
        rw [overrideRecords_congr h, hasked]
      cases hurl : engine.dialect.rootUrl s.loose with
      | error fault =>
          rw [run_buildConfig_of_url_error hurl hsize,
            run_buildConfig_of_url_error (hurls.trans hurl) hsize', hrecords]
      | ok url =>
          have hconfig : (validatedConfig engine.dialect (s.withLogin user password) others url
              size).redacted = (validatedConfig engine.dialect s overrides url size).redacted := by
            have htexts := congrArg texts hproperties
            rw [← mapValues_texts, ← mapValues_texts] at htexts
            exact congrArg (fun properties =>
              { validatedConfig engine.dialect s overrides url size with
                properties := properties }) htexts
          rw [run_buildConfig_of_size hurl hsize,
            run_buildConfig_of_size (hurls.trans hurl) hsize', hrecords]
          exact Prod.ext (congrArg Except.ok hconfig) rfl

end Pool

namespace Flusher

theorem ofSettings_bind_flush (d : Dialect) (settings : LooseSettings)
    (overrides : Table String Value) :
    ofSettings d settings overrides >>= flush =
      buildConfig d settings overrides >>= fun config =>
        ofExcept (Flush.Wait.ofValue settings.fallbackWait) >>= fun wait =>
          flush ⟨d, .configured config, wait⟩ := by
  simp only [ofSettings, bind_assoc, pure_bind]
  rfl

end Flusher

variable {engine : Engine} {s : Settings} {overrides others : Table String String}

theorem alike_connect_built (h : AgreeButCredentials engine.dialect overrides others)
    (user password : String) :
    Alike
      (buildConfig engine.dialect (s.withLogin user password).loose (asTexts others) >>=
        fun config => engine.dialect.connect config.loose)
      (buildConfig engine.dialect s.loose (asTexts overrides) >>=
        fun config => engine.dialect.connect config.loose) := by
  apply Alike.bind_of_map_eq (map_redacted_buildConfig h user password)
  intro c e hredacted
  exact Dialect.alike_connect engine.engine_dialect hredacted

theorem alike_flush_built (h : AgreeButCredentials engine.dialect overrides others)
    (user password : String) :
    Alike
      (Flusher.ofSettings engine.dialect (s.withLogin user password).loose (asTexts others) >>=
        Flusher.flush)
      (Flusher.ofSettings engine.dialect s.loose (asTexts overrides) >>= Flusher.flush) := by
  rw [Flusher.ofSettings_bind_flush, Flusher.ofSettings_bind_flush]
  apply Alike.bind_of_map_eq (map_redacted_buildConfig h user password)
  intro c e hredacted
  apply Alike.bind_congr
  intro wait
  exact Flusher.alike_flush_configured engine.engine_dialect hredacted wait

/-- No credential goes to a database file. -/
theorem withholds_built (settings : LooseSettings) (overrides : Table String Value) :
    Withholds (buildConfig .sqlite settings overrides >>=
        fun config => Dialect.sqlite.connect config.loose) ∧
      Withholds (Flusher.ofSettings .sqlite settings overrides >>= Flusher.flush) := by
  have hbuild := silent_buildConfig .sqlite settings overrides
  constructor
  · apply Withholds.of_silent_bind hbuild
    intro config _
    exact Dialect.withholds_connect_sqlite config.loose
  · rw [Flusher.ofSettings_bind_flush]
    apply Withholds.of_silent_bind hbuild
    intro config _
    apply Withholds.of_silent_bind (silent_ofExcept _)
    intro wait _
    exact Flusher.withholds_flush_sqlite config wait

/-- Building, connecting and flushing show of the credentials, wherever they come from, no more than
arguments of the call that opens a connection: the records, the outcome and all other calls and
arguments are the same whatever the credentials are. A database file does not even get these. -/
theorem credentials_are_confined (h : AgreeButCredentials engine.dialect overrides others)
    (user password : String) :
    let build := buildConfig engine.dialect s.loose (asTexts overrides)
    let rebuild := buildConfig engine.dialect (s.withLogin user password).loose (asTexts others)
    let flusher := Flusher.ofSettings engine.dialect s.loose (asTexts overrides)
    let reflusher :=
      Flusher.ofSettings engine.dialect (s.withLogin user password).loose (asTexts others)
    (∀ script world,
      (run rebuild script world).1.map PoolConfig.redacted =
          (run build script world).1.map PoolConfig.redacted ∧
        (run rebuild script world).2 = (run build script world).2) ∧
      Alike (rebuild >>= fun config => engine.dialect.connect config.loose)
        (build >>= fun config => engine.dialect.connect config.loose) ∧
      Alike (reflusher >>= Flusher.flush) (flusher >>= Flusher.flush) ∧
      (engine = .sqlite →
        Withholds (build >>= fun config => engine.dialect.connect config.loose) ∧
          Withholds (flusher >>= Flusher.flush)) := by
  intro build rebuild flusher reflusher
  refine ⟨?_, alike_connect_built h user password, alike_flush_built h user password, ?_⟩
  · intro script world
    have hrun : run (PoolConfig.redacted <$> rebuild) script world =
        run (PoolConfig.redacted <$> build) script world :=
      congrArg (fun action => run action script world) (map_redacted_buildConfig h user password)
    rw [run_map, run_map] at hrun
    exact Prod.mk.inj hrun
  · rintro rfl
    exact withholds_built s.loose (asTexts overrides)

/-- Overrides that name a user in their own way. -/
def ownUser (name : String) : Table String String :=
  ⟨[("mysql_connector_USER", name), ("mysql_connector_read_timeout", "30")], by
    show ["mysql_connector_USER", "mysql_connector_read_timeout"].Nodup
    decide⟩

theorem agree_ownUser (name other : String) :
    AgreeButCredentials .mysql (ownUser name) (ownUser other) := by
  refine ⟨rfl, ?_⟩
  intro key hkey
  have hne : "mysql_connector_USER" ≠ key := by
    rintro rfl
    exact absurd (hkey "USER" rfl) (by decide)
  show Table.lookupEntry key (("mysql_connector_USER", other) :: _) =
    Table.lookupEntry key (("mysql_connector_USER", name) :: _)
  rw [Table.lookupEntry_cons_of_ne _ _ hne, Table.lookupEntry_cons_of_ne _ _ hne]

/-- A user that is written as a number becomes one, and still nothing shows of it. -/
theorem credentials_are_confined_of_ownUser :
    let plain := buildConfig .mysql ({} : Settings).loose (asTexts (ownUser "clerk")) >>=
      fun config => Dialect.mysql.connect config.loose
    let other := buildConfig .mysql (({} : Settings).withLogin "root" "secret").loose
      (asTexts (ownUser "42")) >>= fun config => Dialect.mysql.connect config.loose
    AgreeButCredentials .mysql (ownUser "clerk") (ownUser "42") ∧ Alike other plain ∧
      (run other {} {}).2.calls = [.connect (.mysql
        [("host", .text "localhost"), ("port", .int 3306), ("database", .text "store"),
          ("charset", .text "utf8mb4"), ("use_unicode", .bool true), ("autocommit", .bool false),
          ("connect_timeout", .int 10), ("USER", .int 42), ("read_timeout", .int 30),
          ("user", .text "root"), ("password", .text "secret")])] := by
  intro plain other
  have hagree := agree_ownUser "clerk" "42"
  obtain ⟨-, hconnect, -, -⟩ :=
    @credentials_are_confined .mysql {} (ownUser "clerk") (ownUser "42") hagree "root" "secret"
  exact ⟨hagree, hconnect, rfl⟩

end SqlBackend
