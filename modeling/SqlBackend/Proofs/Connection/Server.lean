import SqlBackend.Proofs.Address.Server
import SqlBackend.Proofs.Connection.Addressed
import SqlBackend.Proofs.Dialect.Scheme
import SqlBackend.Proofs.Flush.Handover
import SqlBackend.Proofs.Pool.Validated

/-!
# Servers are addressed as the settings say

The host, the port and the database of the settings are written into an address when a configuration is
built, and read from it again when a connection is opened. `serverAddress` is what stands in between,
and `readAddress` is what is read, which differs from it by what the path of an address cannot carry.
-/

namespace SqlBackend

open SqlBackend.Action SqlBackend.Pool SqlBackend.Text SqlBackend.Numeric

namespace Settings

/-- The port of the settings, or another one where they have none. -/
def portOr (s : Settings) (default : Nat) : Nat := (s.port.map Subtype.val).getD default

/-- Settings with a plain host. -/
structure PlainHost (s : Settings) : Prop where
  host_ne : s.host ≠ ""
  host : s.host.toList.all isHostChar = true

/-- Settings with a plain host, a port in the range of ports, and a database that an address can
carry. -/
structure Addressable (s : Settings) : Prop where
  host_ne : s.host ≠ ""
  host : s.host.toList.all isHostChar = true
  port : ∀ n, s.port = some n → n.val ≤ 65535
  database : s.database.toList.all Address.isPathChar = true

variable {s : Settings}

theorem Addressable.plainHost (h : s.Addressable) : s.PlainHost := ⟨h.host_ne, h.host⟩

theorem Addressable.portOr_le (h : s.Addressable) {default : Nat} (hdefault : default ≤ 65535) :
    s.portOr default ≤ 65535 := by
  rw [portOr]
  cases hport : s.port with
  | none => exact hdefault
  | some n => exact h.port n hport

theorem lt_of_le_lastPort {port : Nat} (h : port ≤ 65535) : port < 10 ^ 4300 :=
  lt_of_lt_billion (Nat.lt_of_le_of_lt h (by decide))

theorem portOr_ne_zero (s : Settings) {default : Nat} (hdefault : default ≠ 0) :
    s.portOr default ≠ 0 := by
  rw [portOr]
  cases s.port with
  | none => exact hdefault
  | some n => exact Nat.ne_of_gt n.property

/-- The address of a server without a database. -/
def serverUrl (s : Settings) (scheme : String) (default : Nat) : String :=
  scheme ++ "://" ++ s.host ++ ":" ++ (s.portOr default).repr ++ "/"

/-- The parts of the address of a server with its database. -/
def serverAddress (s : Settings) (scheme : String) (default : Nat) : Address where
  scheme := scheme.toList
  authority := s.host.toList ++ ':' :: (s.portOr default).repr.toList
  path := '/' :: s.database.toList

/-- The parts of the address of a server as they are read. -/
def readAddress (s : Settings) (scheme : String) (default : Nat) : Address :=
  { s.serverAddress scheme default with path := '/' :: Address.keptPath s.database.toList }

theorem readAddress_eq (h : s.Addressable) (scheme : String) (default : Nat) :
    s.readAddress scheme default = s.serverAddress scheme default := by
  rw [readAddress, Address.keptPath_eq_self_iff.mpr (List.all_eq_true.mp h.database)]
  rfl

theorem ofText?_serverUrl (h : s.PlainHost) {scheme : String} (default : Nat)
    (hne : scheme.toList ≠ []) (hscheme : scheme.toList.all isAsciiLower = true)
    (hparameters : Address.parameterSchemes.contains scheme = false) :
    Address.ofText? (s.serverUrl scheme default ++ s.database) =
      .ok (s.readAddress scheme default) := by
  apply Address.ofText?_eq_ok hne (List.all_eq_true.mp hscheme)
  · rw [String.ofList_toList]
    exact hparameters
  · intro c hc
    rcases List.mem_append.mp hc with hmem | hmem
    · exact Address.isServerChar_of_isHostChar (List.all_eq_true.mp h.host c hmem)
    · rcases List.mem_cons.mp hmem with rfl | hmem
      · decide
      · exact Address.isServerChar_of_isHostChar
          (isHostChar_of_isAsciiDigit (isAsciiDigit_of_mem_repr hmem))
  · simp [serverUrl, serverAddress, String.toList_append]

theorem host?_readAddress (h : s.PlainHost) (scheme : String) (default : Nat) :
    (s.readAddress scheme default).host? = some s.host := by
  have hne : s.host.toList ≠ [] := by
    simpa using h.host_ne
  rw [readAddress, serverAddress,
    Address.host?_server (s.portOr default) (List.all_eq_true.mp h.host) hne, String.ofList_toList]

theorem port?_readAddress (h : s.PlainHost) (scheme : String) {default : Nat}
    (hport : s.portOr default ≤ 65535) :
    (s.readAddress scheme default).port? = .ok (some (s.portOr default)) :=
  Address.port?_server (s.portOr default) (List.all_eq_true.mp h.host) hport

theorem port?_readAddress_of_lt (h : s.PlainHost) (scheme : String) {default : Nat}
    (hport : 65535 < s.portOr default) :
    ∃ error, (s.readAddress scheme default).port? = .error error :=
  Address.port?_server_of_lt (s.portOr default) (List.all_eq_true.mp h.host) hport

theorem pathTail_serverAddress (s : Settings) (scheme : String) (default : Nat) :
    (s.serverAddress scheme default).pathTail = s.database :=
  String.ofList_toList

theorem pathName_serverAddress (h : s.database.toList.head? ≠ some '/') (scheme : String)
    (default : Nat) : (s.serverAddress scheme default).pathName = s.database := by
  have hdrop : ('/' :: s.database.toList).dropWhile (· == '/') = s.database.toList := by
    rw [List.dropWhile_cons_of_pos (by decide)]
    cases hdatabase : s.database.toList with
    | nil => rfl
    | cons c rest =>
        rw [hdatabase, List.head?_cons] at h
        exact List.dropWhile_cons_of_neg (by simpa using h)
  show String.ofList (('/' :: s.database.toList).dropWhile (· == '/')) = s.database
  rw [hdrop, String.ofList_toList]

end Settings

namespace Dialect

variable {d : Dialect} (s : Settings)

theorem port_loose {default : Nat} (h : d.defaultPort = some (default : Int)) :
    d.port s.loose = .int (s.portOr default) := by
  rw [port, h, Settings.portOr]
  cases hport : s.port with
  | none => simp [Settings.loose, hport, Value.truthy]
  | some n =>
      have hpositive : n.val ≠ 0 := Nat.ne_of_gt n.property
      simp [Settings.loose, hport, Value.truthy, hpositive]

/-- The address of a server is written if its port can be. -/
theorem rootUrl_server {scheme : String} {others : List String} {default : Nat}
    (hengine : d.engine ≠ some .sqlite) (hschemes : d.schemes = scheme :: others)
    (hdefault : d.defaultPort = some (default : Int)) :
    d.rootUrl s.loose = if s.portOr default < 10 ^ 4300 then .ok (s.serverUrl scheme default)
      else .error (.numeralTooLong none) := by
  have hhost : s.loose.host.written = .ok s.host := Value.written_text s.host
  rw [rootUrl_of_schemes hengine hschemes, hhost, port_loose s hdefault, Value.written_int,
    writtenInteger_natCast]
  split <;> rfl

theorem rootUrl_mysql (h : s.portOr 3306 ≤ 65535) :
    Dialect.mysql.rootUrl s.loose = .ok (s.serverUrl "mysql" 3306) := by
  rw [rootUrl_server s (by decide) rfl rfl, if_pos (Settings.lt_of_le_lastPort h)]

theorem rootUrl_oracle (h : s.portOr 1521 ≤ 65535) :
    Dialect.oracle.rootUrl s.loose = .ok (s.serverUrl "oracle" 1521) := by
  rw [rootUrl_server s (by decide) rfl rfl, if_pos (Settings.lt_of_le_lastPort h)]

end Dialect

namespace Connection

variable {s : Settings} {config : PoolConfig} {script : Script}

/-- What a connection to MySQL is opened with, before the properties. -/
def mysqlOwn (s : Settings) : Arguments :=
  [("host", .text s.host), ("port", .int (s.portOr 3306)),
    ("database", if s.database = "" then .null else .text s.database)]

/-- What a connection to Oracle is opened with, before the properties. -/
def oracleOwn (s : Settings) : Arguments :=
  [("dsn", .text (s.host ++ ":" ++ (s.portOr 1521).repr ++ "/" ++ s.database))]

theorem addressOf_eq_ok (h : s.PlainHost) {scheme : String} {default : Nat}
    (hne : scheme.toList ≠ []) (hscheme : scheme.toList.all isAsciiLower = true)
    (hparameters : Address.parameterSchemes.contains scheme = false)
    (hurl : config.connectionUrl = s.serverUrl scheme default ++ s.database) :
    addressOf config.loose.connectionUrl = .ok (s.readAddress scheme default) := by
  show (Address.ofText? config.connectionUrl).mapError _ = _
  rw [hurl, Settings.ofText?_serverUrl h default hne hscheme hparameters]
  rfl

theorem portOf_readAddress (h : s.PlainHost) (scheme : String) {default : Nat}
    (hport : s.portOr default ≤ 65535) :
    portOf (s.readAddress scheme default) = .ok (some (s.portOr default)) := by
  rw [portOf, Settings.port?_readAddress h scheme hport]
  rfl

theorem mysqlTarget_eq_ok (h : s.Addressable) (hdriver : script.driverMissing = false)
    (hurl : config.connectionUrl = s.serverUrl "mysql" 3306 ++ s.database)
    (hfree : ∀ name ∈ ["host", "port", "database"], config.properties.get? name = none)
    (world : World) :
    (run (mysqlTarget config.loose) script world).1 =
      .ok (.mysql (mysqlOwn s ++ config.arguments)) := by
  have haddress : addressOf config.loose.connectionUrl = .ok (s.readAddress "mysql" 3306) :=
    addressOf_eq_ok h.plainHost (by decide) (by decide) (by decide) hurl
  have hport : portOf (s.readAddress "mysql" 3306) = .ok (some (s.portOr 3306)) :=
    portOf_readAddress h.plainHost "mysql" (h.portOr_le (by decide))
  have hdatabase : textOrNull (nonEmpty? (s.readAddress "mysql" 3306).pathTail) =
      if s.database = "" then .null else .text s.database := by
    rw [Settings.readAddress_eq h, Settings.pathTail_serverAddress, nonEmpty?]
    by_cases hempty : s.database = ""
    · simp [hempty, textOrNull]
    · simp [hempty, textOrNull, String.isEmpty_iff]
  have hown : Engine.mysql.addressArguments (s.readAddress "mysql" 3306) (some (s.portOr 3306)) =
      mysqlOwn s := by
    rw [Engine.addressArguments, Settings.host?_readAddress h.plainHost, hdatabase]
    rfl
  have htarget := @Engine.target_of_free .mysql _ _ config script hdriver haddress hport hfree world
  rw [Engine.targetOf, hown, Engine.passed_of_takes_all fun _ => rfl] at htarget
  exact htarget

theorem serviceName_succ {address : Address} {host : String} (h : address.host? = some host)
    (n : Nat) : serviceName address (some (n + 1)) =
      host ++ ":" ++ (n + 1).repr ++ "/" ++ address.pathName := by
  have hshown : (textOrNull (some host)).shown = host := Value.shown_text host
  simp only [serviceName, h, hshown]

theorem oracleTarget_eq_ok (h : s.Addressable) (hslash : s.database.toList.head? ≠ some '/')
    (hdriver : script.driverMissing = false)
    (hurl : config.connectionUrl = s.serverUrl "oracle" 1521 ++ s.database)
    (hfree : ∀ name ∈ ["dsn"], config.properties.get? name = none) (world : World) :
    (run (oracleTarget config.loose) script world).1 =
      .ok (.oracle (oracleOwn s ++ config.arguments)) := by
  have haddress : addressOf config.loose.connectionUrl = .ok (s.readAddress "oracle" 1521) :=
    addressOf_eq_ok h.plainHost (by decide) (by decide) (by decide) hurl
  have hport : portOf (s.readAddress "oracle" 1521) = .ok (some (s.portOr 1521)) :=
    portOf_readAddress h.plainHost "oracle" (h.portOr_le (by decide))
  have hservice : serviceName (s.readAddress "oracle" 1521) (some (s.portOr 1521)) =
      s.host ++ ":" ++ (s.portOr 1521).repr ++ "/" ++ s.database := by
    obtain ⟨n, hn⟩ : ∃ n, s.portOr 1521 = n + 1 :=
      Nat.exists_eq_succ_of_ne_zero (s.portOr_ne_zero (by decide))
    rw [hn, serviceName_succ (Settings.host?_readAddress h.plainHost "oracle" 1521) n,
      Settings.readAddress_eq h, Settings.pathName_serverAddress hslash]
  have hown : Engine.oracle.addressArguments (s.readAddress "oracle" 1521) (some (s.portOr 1521)) =
      oracleOwn s := by
    rw [Engine.addressArguments, hservice]
    rfl
  have htarget := @Engine.target_of_free .oracle _ _ config script hdriver haddress hport hfree world
  rw [Engine.targetOf, hown, Engine.passed_of_takes_all fun _ => rfl] at htarget
  exact htarget

end Connection

namespace Engine

theorem addressNames_free (engine : Engine) : ∀ name ∈ engine.addressNames,
    name ≠ "user" ∧ name ≠ "password" ∧ engine.dialect.defaultProperties.get? name = none := by
  cases engine <;> decide

theorem sizeProperty_free (engine : Engine) :
    engine.dialect.defaultProperties.get? sizeProperty = none := by
  cases engine <;> decide

end Engine

open SqlBackend.Connection SqlBackend.Flush

variable {s : Settings} {overrides : Table String String} {script : Script}

/-- A configuration is built in silence, and then a connection is opened from it, once the overrides
ask for no size that cannot be read. Names that neither the overrides nor the defaults know are free
in it. -/
theorem run_connect_built {d : Dialect} {url : String} (hurl : d.rootUrl s.loose = .ok url)
    (hdefault : d.defaultProperties.get? sizeProperty = none) (hsize : SizeReadable d overrides)
    {names : List String} (hnames : ∀ name ∈ names, name ≠ "user" ∧ name ≠ "password" ∧
      d.defaultProperties.get? name = none)
    (hoverrides : ∀ name ∈ names, overrides.has (d.propertyPrefix ++ name) = false)
    (script : Script) (world : World) :
    ∃ (config : PoolConfig) (records : List Record), config.connectionUrl = url ++ s.database ∧
      (∀ name ∈ names, config.properties.get? name = none) ∧
      run (buildConfig d s.loose (asTexts overrides) >>= fun config => d.connect config.loose) script
        world = run (d.connect config.loose) script (world.extend [] records) := by
  obtain ⟨size, hsize⟩ := exists_size_of_readable hdefault hsize
  refine ⟨validatedConfig d s overrides url size,
    buildRecords d s.loose (asTexts overrides) size, rfl, ?_, ?_⟩
  · intro name hname
    obtain ⟨huser, hpassword, hdefault⟩ := hnames name hname
    exact get?_validatedConfig_of_free huser hpassword (hoverrides name hname) hdefault url size
  · rw [run_bind_of_ok (run_buildConfig_of_size hurl hsize script world)]

/-- A connection is opened with the target that a built configuration leads to, in which the names of
the address are free when neither the overrides nor the defaults know them. -/
theorem calls_connect_built {d : Dialect} {engine : Engine} (hengine : d.engine = some engine)
    {url : String} (hurl : d.rootUrl s.loose = .ok url)
    (hdefault : d.defaultProperties.get? sizeProperty = none) (hsize : SizeReadable d overrides)
    {names : List String} (hnames : ∀ name ∈ names, name ≠ "user" ∧ name ≠ "password" ∧
      d.defaultProperties.get? name = none)
    (hoverrides : ∀ name ∈ names, overrides.has (d.propertyPrefix ++ name) = false)
    {make : Arguments → Target} (htarget : ∀ config : PoolConfig,
      config.connectionUrl = url ++ s.database →
        (∀ name ∈ names, config.properties.get? name = none) → ∀ world,
          (run (engine.target config.loose) script world).1 = .ok (make config.arguments))
    (world : World) :
    ∃ properties : Arguments, (∀ property ∈ properties, property.1 ∉ names) ∧
      (run (buildConfig d s.loose (asTexts overrides) >>= fun config => d.connect config.loose) script
        world).2.calls = world.calls ++ openingCalls engine script (make properties) := by
  obtain ⟨config, records, hconnection, hfree, hrun⟩ :=
    run_connect_built hurl hdefault hsize hnames hoverrides script world
  refine ⟨config.arguments, PoolConfig.not_mem_of_free hfree, ?_⟩
  rw [hrun, Engine.calls_connect_of_target hengine (htarget config hconnection hfree _), World.calls_extend,
    List.append_nil]

/-- A server is greeted with nothing. -/
theorem openingCalls_of_greetingCalls_nil {engine : Engine} (h : engine.greetingCalls = [])
    (target : Target) : openingCalls engine script target = [.connect target] := by
  rw [openingCalls, h]
  cases script.connect with
  | none => rfl
  | some error => rfl

/-- MySQL is addressed by the host, the port and the database of the settings, and Oracle by the one
name made of them, unless the overrides take their place or ask for a size that cannot be read. -/
theorem servers_are_addressed (h : s.Addressable) (hdriver : script.driverMissing = false)
    (world : World) :
    (SizeReadable .mysql overrides →
      (∀ name ∈ ["host", "port", "database"], overrides.has ("mysql_connector_" ++ name) = false) →
      ∃ properties : Arguments, (∀ property ∈ properties, property.1 ∉ ["host", "port", "database"]) ∧
        (run (buildConfig .mysql s.loose (asTexts overrides) >>= fun config =>
            Dialect.mysql.connect config.loose) script world).2.calls =
          world.calls ++ [.connect (.mysql
            ([("host", .text s.host), ("port", .int (s.portOr 3306)),
              ("database", if s.database = "" then .null else .text s.database)] ++ properties))]) ∧
    (SizeReadable .oracle overrides → overrides.has "oracle_connector_dsn" = false →
      s.database.toList.head? ≠ some '/' →
      ∃ properties : Arguments, (∀ property ∈ properties, property.1 ∉ ["dsn"]) ∧
        (run (buildConfig .oracle s.loose (asTexts overrides) >>= fun config =>
            Dialect.oracle.connect config.loose) script world).2.calls =
          world.calls ++ [.connect (.oracle
            ([("dsn", .text (s.host ++ ":" ++ (s.portOr 1521).repr ++ "/" ++ s.database))]
              ++ properties))]) := by
  have hmysql : ∀ name ∈ ["host", "port", "database"], name ≠ "user" ∧ name ≠ "password" ∧
      Dialect.mysql.defaultProperties.get? name = none := by
    decide
  have horacle : ∀ name ∈ ["dsn"], name ≠ "user" ∧ name ≠ "password" ∧
      Dialect.oracle.defaultProperties.get? name = none := by
    decide
  constructor
  · intro hsize hoverrides
    obtain ⟨properties, hproperties, hcalls⟩ := @calls_connect_built s overrides script .mysql .mysql
      rfl _ (Dialect.rootUrl_mysql s (h.portOr_le (by decide))) (by decide) hsize _ hmysql hoverrides
      (fun properties => .mysql (mysqlOwn s ++ properties)) (fun _ hurl hfree =>
        mysqlTarget_eq_ok h hdriver hurl hfree) world
    rw [openingCalls_of_greetingCalls_nil rfl] at hcalls
    exact ⟨properties, hproperties, hcalls⟩
  · intro hsize hoverride hslash
    have hoverrides : ∀ name ∈ ["dsn"], overrides.has ("oracle_connector_" ++ name) = false := by
      intro name hname
      rw [List.mem_singleton] at hname
      subst hname
      exact hoverride
    obtain ⟨properties, hproperties, hcalls⟩ := @calls_connect_built s overrides script .oracle .oracle
      rfl _ (Dialect.rootUrl_oracle s (h.portOr_le (by decide))) (by decide) hsize _ horacle hoverrides
      (fun properties => .oracle (oracleOwn s ++ properties)) (fun _ hurl hfree =>
        oracleTarget_eq_ok h hslash hdriver hurl hfree) world
    rw [openingCalls_of_greetingCalls_nil rfl] at hcalls
    exact ⟨properties, hproperties, hcalls⟩

/-- Settings with a database whose name holds almost everything that has a meaning elsewhere in an
address. -/
def oddServer : Settings where
  host := "db-1.local"
  port := some ⟨6033, by decide⟩
  database := "shop/eu:1@[x] ;%"

/-- Overrides of which one names a host in its own way, and one asks for no number. -/
def oddOverrides : Table String String :=
  ⟨[("mysql_connector_HOST", "elsewhere"), ("mysql_connector_maxActive", "many")], by decide⟩

theorem addressable_oddServer : oddServer.Addressable where
  host_ne := by decide
  host := by decide
  port := by
    rintro n ⟨⟩
    decide
  database := by decide

theorem servers_are_addressed_of_oddServer :
    ∃ properties others : Arguments,
      (run (buildConfig .mysql oddServer.loose (asTexts oddOverrides) >>= fun config =>
          Dialect.mysql.connect config.loose) {} {}).2.calls =
        [.connect (.mysql ([("host", .text "db-1.local"), ("port", .int 6033),
          ("database", .text "shop/eu:1@[x] ;%")] ++ properties))] ∧
      (run (buildConfig .oracle oddServer.loose (asTexts oddOverrides) >>= fun config =>
          Dialect.oracle.connect config.loose) {} {}).2.calls =
        [.connect (.oracle ([("dsn", .text "db-1.local:6033/shop/eu:1@[x] ;%")] ++ others))] := by
  obtain ⟨hmysql, horacle⟩ :=
    @servers_are_addressed oddServer oddOverrides {} addressable_oddServer rfl {}
  have hsize : SizeReadable .mysql oddOverrides := by
    rintro text ⟨⟩ digits hdigits
    cases hdigits
  have hsize' : SizeReadable .oracle oddOverrides := by
    rintro text ⟨⟩
  obtain ⟨properties, -, hcalls⟩ := hmysql hsize (by decide)
  obtain ⟨others, -, hcalls'⟩ := horacle hsize' (by decide) (by decide)
  exact ⟨properties, others, hcalls, hcalls'⟩

/-- Overrides that ask for a size with one digit more than can be read. -/
def longSize : Table String String :=
  ⟨[("mysql_connector_maxActive", String.ofList (List.replicate 4301 '1'))], List.nodup_singleton _⟩

/-- A size of too many digits keeps the server from being called at all. -/
theorem server_not_called_for_longSize :
    ({} : Settings).Addressable ∧
      (∀ name ∈ ["host", "port", "database"], longSize.has ("mysql_connector_" ++ name) = false) ∧
      (run (buildConfig .mysql ({} : Settings).loose (asTexts longSize) >>= fun config =>
        Dialect.mysql.connect config.loose) {} {}).1 = .error (.numeralTooLong (some 4301)) ∧
      (run (buildConfig .mysql ({} : Settings).loose (asTexts longSize) >>= fun config =>
        Dialect.mysql.connect config.loose) {} {}).2.calls = [] := by
  have hrequest : SizeRequest.ofValue (.text (String.ofList (List.replicate 4301 '1'))) =
      .tooLong 4301 := by
    have hdigits : ∀ c ∈ List.replicate 4301 '1', isAsciiDigit c = true := by
      intro c hc
      rw [List.eq_of_mem_replicate hc]
      decide
    have hlong := ofValue_eq_tooLong hdigits (by rw [List.length_replicate]; decide)
    rw [List.length_replicate] at hlong
    exact hlong
  have hasked : askedSize (validatedProperties .mysql {} longSize) =
      .text (String.ofList (List.replicate 4301 '1')) :=
    askedSize_validatedProperties (by decide)
  have hsize : sizeFor (askedSize (validatedProperties .mysql {} longSize)) defaultSize =
      .error (.numeralTooLong (some 4301)) := by
    rw [hasked, sizeFor, hrequest]
    rfl
  have hrun := @run_bind_of_error _ _ _ (fun config : PoolConfig => Dialect.mysql.connect config.loose)
    _ _ _ _ (run_buildConfig_of_size_error hsize {} {})
  refine ⟨⟨by decide, by decide, ?_, by decide⟩, by decide, ?_, ?_⟩
  · rintro n ⟨⟩
  · rw [hrun]
  · rw [hrun]
    rfl

end SqlBackend
