import SqlBackend.Proofs.Connection.Server

/-!
# Ports that a server can be called at

Settings take every positive number for a port, but an address is asked for its port when a connection
is opened, and refuses one that is out of the range of ports; one of more than 4300 digits does not even
get into an address. So a server is called exactly if the port of the settings is in this range.
Whatever the database is, it does not keep the server from being called.
-/

namespace SqlBackend

open SqlBackend.Action SqlBackend.Pool SqlBackend.Connection SqlBackend.Flush

namespace Settings

variable {s : Settings}

/-- The port of the settings, if they have one, is in the range of ports. -/
def PortInRange (s : Settings) : Prop := ∀ n, s.port = some n → n.val ≤ 65535

theorem portOr_of_port {port : { n : Nat // 0 < n }} (h : s.port = some port) (default : Nat) :
    s.portOr default = port.val := by
  rw [portOr, h]
  rfl

theorem portOr_le_iff {default : Nat} (hdefault : default ≤ 65535) :
    s.portOr default ≤ 65535 ↔ s.PortInRange := by
  rw [portOr, PortInRange]
  cases s.port with
  | none => simpa using hdefault
  | some n => simp

theorem exists_port_of_not_portInRange (h : ¬ s.PortInRange) : ∃ n, s.port = some n := by
  rw [PortInRange, not_forall] at h
  obtain ⟨n, hn⟩ := h
  exact ⟨n, (Classical.not_imp.mp hn).1⟩

end Settings

namespace Engine

/-- A server is addressed under a scheme and with a port of its own. -/
theorem exists_serverUrl {engine : Engine} (hserver : engine ≠ .sqlite) {s : Settings}
    (h : s.PlainHost) :
    ∃ (scheme : String) (default : Nat), default ≤ 65535 ∧
      (engine.dialect.rootUrl s.loose =
        if s.portOr default < 10 ^ 4300 then .ok (s.serverUrl scheme default)
        else .error (.numeralTooLong none)) ∧
      ∀ config : PoolConfig, config.connectionUrl = s.serverUrl scheme default ++ s.database →
        addressOf config.loose.connectionUrl = .ok (s.readAddress scheme default) := by
  cases engine with
  | mysql =>
      refine ⟨"mysql", 3306, by decide, Dialect.rootUrl_server s (by decide) rfl rfl, ?_⟩
      exact fun config hurl => addressOf_eq_ok h (by decide) (by decide) (by decide) hurl
  | oracle =>
      refine ⟨"oracle", 1521, by decide, Dialect.rootUrl_server s (by decide) rfl rfl, ?_⟩
      exact fun config hurl => addressOf_eq_ok h (by decide) (by decide) (by decide) hurl
  | sqlite => exact absurd rfl hserver

section

variable {engine : Engine} (hserver : engine ≠ .sqlite) {config : PoolConfig} {address : Address}
  {script : Script} (hdriver : script.driverMissing = false)
  (haddress : addressOf config.loose.connectionUrl = .ok address)

include hserver hdriver haddress

/-- An address with a port leads to a server. -/
theorem exists_target {port : Nat} (hport : portOf address = .ok (some port))
    (hfree : ∀ name ∈ engine.addressNames, config.properties.get? name = none) (world : World) :
    ∃ target, (run (engine.target config.loose) script world).1 = .ok target :=
  ⟨_, target_of_free hdriver haddress ((readPort_of_server hserver address).trans hport) hfree
    world⟩

/-- An address whose port is refused leads nowhere. -/
theorem target_of_port_error {fault : Fault} (hport : portOf address = .error fault)
    (world : World) : (run (engine.target config.loose) script world).1 = .error fault := by
  cases engine with
  | mysql =>
      show (run (mysqlTarget config.loose) script world).1 = _
      rw [mysqlTarget, run_bind_of_ok (run_requireDriver_of_installed hdriver world), haddress,
        liftM_ok, pure_bind, run_bind_of_ok (run_log_eq_extend _ _ _), hport]
      rfl
  | oracle =>
      show (run (oracleTarget config.loose) script world).1 = _
      rw [oracleTarget, run_bind_of_ok (run_requireDriver_of_installed hdriver world), haddress,
        liftM_ok, pure_bind, hport]
      rfl
  | sqlite => exact absurd rfl hserver

end

theorem greetingCalls_of_server {engine : Engine} (hserver : engine ≠ .sqlite) :
    engine.greetingCalls = [] := by
  cases engine with
  | sqlite => exact absurd rfl hserver
  | mysql | oracle => rfl

theorem greetingError_of_server {engine : Engine} (hserver : engine ≠ .sqlite) (script : Script)
    (world : World) : engine.greetingError script world = none := by
  cases engine with
  | sqlite => exact absurd rfl hserver
  | mysql | oracle => rfl

end Engine

variable {s : Settings} {overrides : Table String String} {script : Script} {engine : Engine}

section

variable {scheme : String} {default : Nat} (hserver : engine ≠ .sqlite) (h : s.PlainHost)
  (hdriver : script.driverMissing = false) (hsize : SizeReadable engine.dialect overrides)
  (hoverrides : ∀ name ∈ engine.addressNames,
    overrides.has (engine.dialect.propertyPrefix ++ name) = false)
  (hurl : engine.dialect.rootUrl s.loose = .ok (s.serverUrl scheme default))
  (haddress : ∀ config : PoolConfig, config.connectionUrl = s.serverUrl scheme default ++ s.database →
    addressOf config.loose.connectionUrl = .ok (s.readAddress scheme default))

include hserver h hdriver hsize hoverrides hurl haddress

/-- A server with a port in the range of ports is called, and opening the connection ends as the driver
answers. -/
theorem run_connect_of_port_le (hport : s.portOr default ≤ 65535) (world : World) :
    ∃ target records,
      run (buildConfig engine.dialect s.loose (asTexts overrides) >>= fun config =>
        engine.dialect.connect config.loose) script world =
          (endingWith script.connect, world.extend [.connect target] records) := by
  obtain ⟨config, built, hconnection, hfree, hrun⟩ :=
    run_connect_built hurl engine.sizeProperty_free hsize engine.addressNames_free hoverrides script
      world
  obtain ⟨target, htarget⟩ := Engine.exists_target hserver hdriver (haddress config hconnection)
    (portOf_readAddress h scheme hport) hfree (world.extend [] built)
  obtain ⟨records, hconnect⟩ := Engine.run_connect_of_target engine.engine_dialect htarget
  refine ⟨target, built ++ records, ?_⟩
  rw [hrun, hconnect, openingError, engine.greetingError_of_server hserver, Option.or_none,
    openingCalls_of_greetingCalls_nil (engine.greetingCalls_of_server hserver), World.extend_extend]
  rfl

/-- An address with a port beyond the range of ports is refused before anything is called. -/
theorem run_connect_of_lt_port (hport : 65535 < s.portOr default) (world : World) :
    ∃ error records,
      run (buildConfig engine.dialect s.loose (asTexts overrides) >>= fun config =>
        engine.dialect.connect config.loose) script world =
          (.error (.badAddress error), world.extend [] records) := by
  obtain ⟨config, built, hconnection, -, hrun⟩ :=
    run_connect_built hurl engine.sizeProperty_free hsize engine.addressNames_free hoverrides script
      world
  obtain ⟨error, hrefused⟩ := Settings.port?_readAddress_of_lt h scheme hport
  have hport : portOf (s.readAddress scheme default) = .error (.badAddress error) := by
    rw [portOf, hrefused]
    rfl
  obtain ⟨records, hconnect⟩ := Engine.run_connect_of_target_error engine.engine_dialect
    (Engine.target_of_port_error hserver hdriver (haddress config hconnection) hport
      (world.extend [] built))
  exact ⟨error, built ++ records, by rw [hrun, hconnect, World.extend_extend]; rfl⟩

end

/-- A server is called if the port is in the range of ports, and then opening the connection ends as
the driver answers. Otherwise nothing is called: the address that was built is refused, or the port has
too many digits for an address to be built. -/
theorem server_called_iff_portInRange (hserver : engine ≠ .sqlite) (h : s.PlainHost)
    (hdriver : script.driverMissing = false) (hsize : SizeReadable engine.dialect overrides)
    (hoverrides : ∀ name ∈ engine.addressNames,
      overrides.has (engine.dialect.propertyPrefix ++ name) = false) (world : World) :
    let opened := run (buildConfig engine.dialect s.loose (asTexts overrides) >>= fun config =>
      engine.dialect.connect config.loose) script world
    (s.PortInRange → opened.1 = endingWith script.connect ∧
      ∃ target, opened.2.calls = world.calls ++ [.connect target]) ∧
    (¬ s.PortInRange → opened.2.calls = world.calls ∧
      ((∀ n, s.port = some n → n.val < 10 ^ 4300) → ∃ error, opened.1 = .error (.badAddress error)) ∧
      ∀ n, s.port = some n → 10 ^ 4300 ≤ n.val → opened.1 = .error (.numeralTooLong none)) := by
  intro opened
  obtain ⟨scheme, default, hdefault, hurl, haddress⟩ := Engine.exists_serverUrl hserver h
  have hrange : s.PortInRange ↔ s.portOr default ≤ 65535 := (Settings.portOr_le_iff hdefault).symm
  by_cases hwritten : s.portOr default < 10 ^ 4300
  · rw [if_pos hwritten] at hurl
    constructor
    · intro hin
      obtain ⟨target, records, hopened⟩ := run_connect_of_port_le hserver h hdriver hsize hoverrides
        hurl haddress (hrange.mp hin) world
      change opened = _ at hopened
      exact ⟨by rw [hopened], target, by rw [hopened, World.calls_extend]⟩
    · intro hout
      obtain ⟨error, records, hopened⟩ := run_connect_of_lt_port hserver h hdriver hsize hoverrides
        hurl haddress (Nat.lt_of_not_le (mt hrange.mpr hout)) world
      change opened = _ at hopened
      rw [hopened, World.calls_extend]
      refine ⟨List.append_nil _, fun _ => ⟨error, rfl⟩, fun n hn hlong => ?_⟩
      rw [Settings.portOr_of_port hn] at hwritten
      exact absurd hwritten (Nat.not_lt.mpr hlong)
  · rw [if_neg hwritten] at hurl
    have hout : ¬ s.PortInRange := fun hin =>
      hwritten (Settings.lt_of_le_lastPort (hrange.mp hin))
    obtain ⟨size, hsize⟩ := exists_size_of_readable engine.sizeProperty_free hsize
    have hopened : opened = _ :=
      run_bind_of_error (run_buildConfig_of_url_error hurl hsize script world)
    rw [hopened, World.calls_extend]
    refine ⟨fun hin => absurd hin hout, fun _ => ⟨List.append_nil _, fun hshort => ?_,
      fun _ _ _ => rfl⟩⟩
    obtain ⟨n, hn⟩ := Settings.exists_port_of_not_portInRange hout
    rw [Settings.portOr_of_port hn] at hwritten
    exact absurd (hshort n hn) hwritten

/-- Settings with the last port of all, and a database of which an address keeps next to nothing. -/
def lastPort : Settings where
  host := "db-1.local"
  port := some ⟨65535, by decide⟩
  database := "?#/\t"

theorem server_called_at_lastPort :
    lastPort.PlainHost ∧ lastPort.PortInRange ∧
      ∃ target, (run (buildConfig .oracle lastPort.loose (asTexts .empty) >>= fun config =>
        Dialect.oracle.connect config.loose) {} {}).2.calls = [.connect target] := by
  have hplain : lastPort.PlainHost := ⟨by decide, by decide⟩
  have hrange : lastPort.PortInRange := by
    rintro n ⟨⟩
    decide
  have hsize : SizeReadable Engine.oracle.dialect .empty := by
    rintro text ⟨⟩
  obtain ⟨-, target, hcalls⟩ := (@server_called_iff_portInRange lastPort .empty {} .oracle (by decide)
    hplain rfl hsize (by decide) {}).1 hrange
  exact ⟨hplain, hrange, target, hcalls⟩

/-- Settings with the first number that is no port any more. -/
def noPort : Settings where
  port := some ⟨65536, by decide⟩

/-- A server is not called at a port that its settings were allowed to have. -/
theorem server_not_called_at_noPort :
    noPort.PlainHost ∧
      (run (buildConfig .mysql noPort.loose (asTexts .empty) >>= fun config =>
        Dialect.mysql.connect config.loose) {} {}).1 = .error (.badAddress .portOutOfRange) ∧
      (run (buildConfig .mysql noPort.loose (asTexts .empty) >>= fun config =>
        Dialect.mysql.connect config.loose) {} {}).2.calls = [] ∧
      (run (buildConfig .oracle noPort.loose (asTexts .empty) >>= fun config =>
        Dialect.oracle.connect config.loose) {} {}).1 = .error (.badAddress .portOutOfRange) ∧
      (run (buildConfig .oracle noPort.loose (asTexts .empty) >>= fun config =>
        Dialect.oracle.connect config.loose) {} {}).2.calls = [] :=
  ⟨⟨by decide, by decide⟩, rfl, rfl, rfl, rfl⟩

end SqlBackend
