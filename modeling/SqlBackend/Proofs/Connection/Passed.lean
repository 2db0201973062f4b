import SqlBackend.Proofs.Connection.Addressed
import SqlBackend.Proofs.Flush.Handover

/-!
# What a driver is handed

A driver is handed what the address says, under names of its own, and the properties of the
configuration under theirs. `Target.named` is all of it, with the path of a file under the name of the
parameter that it is bound to. Every property is handed over once, but for the size of the pool and,
where the driver knows no credentials, these; and a property that has the name of what the address
says keeps the driver from being called.
-/

namespace SqlBackend

open SqlBackend.Action SqlBackend.Pool SqlBackend.Connection SqlBackend.Flush

/-- All that a driver is handed by name. -/
def Target.named : Target → Arguments
  | .mysql arguments => arguments
  | .oracle arguments => arguments
  | .sqlite path options => ("database", textOrNull path) :: options
  | _ => []

namespace Engine

variable {engine : Engine} {address : Address} {port : Option Nat}

theorem named_targetOf (engine : Engine) (address : Address) (port : Option Nat)
    (properties : Arguments) :
    (engine.targetOf address port properties).named =
      engine.addressArguments address port ++ properties := by
  cases engine <;> rfl

theorem nodup_addressNames (engine : Engine) : engine.addressNames.Nodup := by
  cases engine <;> decide

/-- The names of what the address says are no names of properties that are kept back. -/
theorem takes_of_mem_addressNames {name : String} (h : name ∈ engine.addressNames) :
    name ≠ sizeProperty ∧ engine.takes name = true := by
  cases engine <;> revert name <;> decide

theorem mem_passed_iff {config : PoolConfig} {name : String} {value : Value} :
    (name, value) ∈ engine.passed config ↔
      ∃ s, config.properties.get? name = some s ∧ name ≠ sizeProperty ∧
        engine.takes name = true ∧ value = argumentOf name s := by
  rw [passed, List.mem_filter, config.mem_arguments_iff]
  constructor
  · rintro ⟨⟨s, hget, hname, rfl⟩, htakes⟩
    exact ⟨s, hget, hname, htakes, rfl⟩
  · rintro ⟨s, hget, hname, htakes, rfl⟩
    exact ⟨⟨s, hget, hname, rfl⟩, htakes⟩

section

variable {config : PoolConfig} {script : Script} (hdriver : script.driverMissing = false)
  (haddress : addressOf config.loose.connectionUrl = .ok address)
  (hport : engine.readPort address = .ok port)

include hdriver haddress hport

/-- A name that is taken leads nowhere. -/
theorem exists_target_error (htaken : ∃ name ∈ engine.addressNames, config.properties.has name = true)
    (world : World) :
    ∃ name ∈ engine.addressNames,
      (run (engine.target config.loose) script world).1 = .error (.repeatedArgument name) := by
  obtain ⟨name, hname, hhas⟩ := htaken
  obtain ⟨s, hget⟩ := Option.isSome_iff_exists.mp hhas
  obtain ⟨hsize, htakes⟩ := takes_of_mem_addressNames hname
  have hproperty : (name, argumentOf name s) ∈ engine.passed config :=
    mem_passed_iff.mpr ⟨s, hget, hsize, htakes, rfl⟩
  have hnames := engine.map_fst_addressArguments address port
  obtain ⟨argument, hargument, rfl⟩ : ∃ argument ∈ engine.addressArguments address port,
      argument.1 = name := by
    rw [← hnames] at hname
    exact List.mem_map.mp hname
  obtain ⟨other, hother, hjoin⟩ := exists_joinArguments_error
    ⟨argument, hargument, (argument.1, argumentOf argument.1 s), hproperty, rfl⟩
  rw [hnames] at hother
  refine ⟨other, hother, ?_⟩
  rw [target_of_address hdriver haddress hport, hjoin]
  rfl

theorem run_connect_of_free
    (hfree : ∀ name ∈ engine.addressNames, config.properties.get? name = none) (world : World) :
    ∃ records, run (engine.dialect.connect config.loose) script world =
      (endingWith (openingError engine script world), world.extend
        (openingCalls engine script (engine.targetOf address port (engine.passed config)))
        records) :=
  run_connect_of_target engine.engine_dialect
    (target_of_free hdriver haddress hport hfree world)

theorem run_connect_of_taken
    (htaken : ∃ name ∈ engine.addressNames, config.properties.has name = true) (world : World) :
    ∃ name records, run (engine.dialect.connect config.loose) script world =
      (.error (.repeatedArgument name), world.extend [] records) := by
  obtain ⟨name, -, htarget⟩ := exists_target_error hdriver haddress hport htaken world
  obtain ⟨records, hrun⟩ := run_connect_of_target_error engine.engine_dialect htarget
  exact ⟨name, records, hrun⟩

end

/-- Nothing that the driver is handed has the name of something else. -/
theorem nodup_named_targetOf {config : PoolConfig}
    (hfree : ∀ name ∈ engine.addressNames, config.properties.get? name = none) :
    ((engine.targetOf address port (engine.passed config)).named.map Prod.fst).Nodup := by
  rw [named_targetOf, List.map_append, map_fst_addressArguments, List.nodup_append]
  refine ⟨engine.nodup_addressNames,
    config.nodup_arguments.sublist (List.filter_sublist.map Prod.fst), ?_⟩
  intro name hname other hother heq
  obtain ⟨property, hproperty, rfl⟩ := List.mem_map.mp hother
  rw [heq] at hname
  exact config.not_mem_of_free hfree property (List.mem_filter.mp hproperty).1 hname

theorem takes_iff (engine : Engine) (name : String) :
    engine.takes name = true ↔ (engine = .sqlite → name ≠ "user" ∧ name ≠ "password") := by
  cases engine <;> simp [takes, isCredential]

end Engine

theorem Pool.argumentOf_eq (name s : String) :
    argumentOf name s = if name = "user" ∨ name = "password" then .text s else coerce s := by
  simp [argumentOf, isCredential]

variable {engine : Engine} {config : PoolConfig} {address : Address} {port : Option Nat}
  {script : Script}

/-- Opening a connection from an address that can be read fails because of an argument that is given
twice exactly if a property has the name of what the address says, and then the driver is not called.
Otherwise it is called, under no name twice, with what the address says and with every property but
the size: credentials as they are, or not at all for a file, and the other properties coerced. -/
theorem properties_reach_driver (hdriver : script.driverMissing = false)
    (haddress : addressOf config.loose.connectionUrl = .ok address)
    (hport : engine.readPort address = .ok port) (world : World) :
    ((∃ name, (run (engine.dialect.connect config.loose) script world).1 =
        .error (.repeatedArgument name)) ↔
      ∃ name ∈ engine.addressNames, config.properties.has name = true) ∧
    ((∃ name ∈ engine.addressNames, config.properties.has name = true) →
      (run (engine.dialect.connect config.loose) script world).2.calls = world.calls) ∧
    ((∀ name ∈ engine.addressNames, config.properties.has name = false) → ∃ target,
      (run (engine.dialect.connect config.loose) script world).1 =
          endingWith (openingError engine script world) ∧
        (run (engine.dialect.connect config.loose) script world).2.calls =
          world.calls ++ openingCalls engine script target ∧
        (target.named.map Prod.fst).Nodup ∧
        ∀ name value, (name, value) ∈ target.named ↔
          (name, value) ∈ engine.addressArguments address port ∨
            ∃ s, config.properties.get? name = some s ∧ name ≠ "maxActive" ∧
              (engine = .sqlite → name ≠ "user" ∧ name ≠ "password") ∧
              value = if name = "user" ∨ name = "password" then .text s else coerce s) := by
  refine ⟨⟨?_, ?_⟩, ?_, ?_⟩
  · rintro ⟨name, hrun⟩
    by_contra htaken
    have hfree : ∀ name ∈ engine.addressNames, config.properties.get? name = none := by
      intro name hname
      rw [← Table.has_eq_false_iff, ← Bool.not_eq_true]
      exact fun hhas => htaken ⟨name, hname, hhas⟩
    obtain ⟨records, hopened⟩ := Engine.run_connect_of_free hdriver haddress hport hfree world
    rw [hopened] at hrun
    cases herror : openingError engine script world with
    | none =>
        rw [herror] at hrun
        cases hrun
    | some error =>
        rw [herror] at hrun
        cases hrun
  · intro htaken
    obtain ⟨name, records, hrun⟩ := Engine.run_connect_of_taken hdriver haddress hport htaken world
    exact ⟨name, by rw [hrun]⟩
  · intro htaken
    obtain ⟨name, records, hrun⟩ := Engine.run_connect_of_taken hdriver haddress hport htaken world
    rw [hrun, World.calls_extend, List.append_nil]
  · intro hhas
    have hfree : ∀ name ∈ engine.addressNames, config.properties.get? name = none :=
      fun name hname => Table.has_eq_false_iff.mp (hhas name hname)
    obtain ⟨records, hrun⟩ := Engine.run_connect_of_free hdriver haddress hport hfree world
    refine ⟨engine.targetOf address port (engine.passed config), by rw [hrun],
      by rw [hrun, World.calls_extend], Engine.nodup_named_targetOf hfree, ?_⟩
    intro name value
    rw [Engine.named_targetOf, List.mem_append, Engine.mem_passed_iff]
    simp only [Pool.argumentOf_eq, engine.takes_iff]
    exact Iff.rfl

/-- A configuration of a file with properties of every kind, of which one only looks like a
credential. -/
def mixedProperties : PoolConfig where
  driver := "sqlite3"
  rootUrl := "sqlite:///"
  connectionUrl := "sqlite:///shop.db"
  properties := ⟨[("user", "root"), ("maxActive", "7"), ("timeout", " 005\n"), ("Password", "TRUE"),
    ("uri", "file")], by decide⟩

/-- A configuration of a server with a property that has the name of what the address says. -/
def takenPort : PoolConfig where
  driver := "pymysql"
  rootUrl := "mysql://db:3306/"
  connectionUrl := "mysql://db:3306/shop"
  properties := ⟨[("user", "root"), ("port", "3307")], by decide⟩

theorem properties_reach_driver_of_mixedProperties :
    (∃ target, (run (Dialect.sqlite.connect mixedProperties.loose) {} {}).2.calls =
        [.connect target, .execute "PRAGMA foreign_keys = ON"] ∧
      ("timeout", .int 5) ∈ target.named ∧ ("Password", .bool true) ∈ target.named ∧
      ("uri", .text "file") ∈ target.named ∧ ("database", .text "shop.db") ∈ target.named ∧
      ∀ value, ("user", value) ∉ target.named ∧ ("maxActive", value) ∉ target.named) ∧
    (∃ name, (run (Dialect.mysql.connect takenPort.loose) {} {}).1 =
      .error (.repeatedArgument name)) ∧
    (run (Dialect.mysql.connect takenPort.loose) {} {}).2.calls = [] := by
  obtain ⟨-, -, hfree⟩ := @properties_reach_driver .sqlite mixedProperties
    ⟨"sqlite".toList, [], "/shop.db".toList⟩ none {} rfl rfl rfl {}
  obtain ⟨hrefused, hcalls, -⟩ := @properties_reach_driver .mysql takenPort
    ⟨"mysql".toList, "db:3306".toList, "/shop".toList⟩ (some 3306) {} rfl rfl rfl {}
  obtain ⟨target, -, hopened, -, hnamed⟩ := hfree (by decide)
  have htaken : ∃ name ∈ Engine.mysql.addressNames, takenPort.properties.has name = true :=
    ⟨"port", by decide, by decide⟩
  refine ⟨⟨target, hopened, (hnamed _ _).mpr (.inr ⟨" 005\n", rfl, by decide, by decide, rfl⟩),
    (hnamed _ _).mpr (.inr ⟨"TRUE", rfl, by decide, by decide, rfl⟩),
    (hnamed _ _).mpr (.inr ⟨"file", rfl, by decide, by decide, rfl⟩),
    (hnamed _ _).mpr (.inl (List.mem_singleton.mpr rfl)), fun value => ⟨?_, ?_⟩⟩,
    hrefused.mpr htaken, hcalls htaken⟩
  · intro hmem
    rcases (hnamed _ _).mp hmem with hown | ⟨s, -, -, hfile, -⟩
    · have hname : "user" = "database" := congrArg Prod.fst (List.mem_singleton.mp hown)
      exact absurd hname (by decide)
    · exact absurd rfl (hfile rfl).1
  · intro hmem
    rcases (hnamed _ _).mp hmem with hown | ⟨s, -, hsize, -⟩
    · have hname : "maxActive" = "database" := congrArg Prod.fst (List.mem_singleton.mp hown)
      exact absurd hname (by decide)
    · exact absurd rfl hsize

end SqlBackend
