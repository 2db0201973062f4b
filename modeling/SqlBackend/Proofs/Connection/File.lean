import SqlBackend.Proofs.Connection.Server

/-!
# Files that are opened

The database of SQLite is a file. Its name is written into an address that has no server, and read from
it again as the path, so the name loses what the path of an address loses: tabs, line ends, and whatever
a question mark or a number sign begins. The file that is opened is the one that the settings name
exactly if its name has none of these characters.
-/

namespace SqlBackend

open SqlBackend.Action SqlBackend.Pool SqlBackend.Flush

namespace Connection

/-- The address of a file as it is read. -/
def fileAddress (file : String) : Address where
  scheme := "sqlite".toList
  authority := []
  path := '/' :: Address.keptPath file.toList

theorem ofText?_fileUrl (file : String) :
    Address.ofText? ("sqlite:///" ++ file) = .ok (fileAddress file) := by
  apply Address.ofText?_eq_ok (by decide) (List.all_eq_true.mp rfl) (by decide) (by simp)
  rw [String.toList_append]
  rfl

/-- An address without a server has nothing but its path to open. -/
theorem filePath?_fileAddress (file : String) :
    filePath? (fileAddress file) = nonEmpty? (String.ofList (Address.keptPath file.toList)) := by
  have hhost : (fileAddress file).host? = none := rfl
  rw [filePath?, hhost]
  show (nonEmpty? (String.ofList (Address.keptPath file.toList)) <|> none) = _
  cases nonEmpty? (String.ofList (Address.keptPath file.toList)) with
  | none => rfl
  | some path => rfl

theorem nonEmpty?_eq_some_iff {s t : String} : nonEmpty? s = some t ↔ t ≠ "" ∧ s = t := by
  rw [nonEmpty?]
  by_cases hempty : s = ""
  · rw [if_pos (String.isEmpty_iff.mpr hempty), hempty]
    constructor
    · intro h
      cases h
    · rintro ⟨hne, rfl⟩
      exact absurd rfl hne
  · rw [if_neg (by rwa [String.isEmpty_iff]), Option.some.injEq]
    constructor
    · rintro rfl
      exact ⟨hempty, rfl⟩
    · exact And.right

/-- A file is opened under its name exactly if the path of an address can carry it. -/
theorem filePath?_eq_some_iff {file : String} :
    filePath? (fileAddress file) = some file ↔
      file ≠ "" ∧ ∀ c ∈ file.toList, Address.isPathChar c = true := by
  rw [filePath?_fileAddress, nonEmpty?_eq_some_iff, ← Address.keptPath_eq_self_iff,
    ← String.toList_inj, String.toList_ofList]

/-- What an address leads to for SQLite. -/
theorem sqliteTarget_of_address {config : PoolConfig} {address : Address} {script : Script}
    (hdriver : script.driverMissing = false)
    (haddress : addressOf config.loose.connectionUrl = .ok address)
    (hfree : ∀ name ∈ Engine.sqlite.addressNames, config.properties.get? name = none)
    (world : World) :
    (run (sqliteTarget config.loose) script world).1 = .ok (.sqlite (filePath? address)
      (config.arguments.filter fun argument => !isCredential argument.1)) :=
  @Engine.target_of_free .sqlite address none config script hdriver haddress rfl hfree world

end Connection

open SqlBackend.Connection

variable {s : Settings} {overrides : Table String String} {script : Script}

/-- SQLite opens what is left of the database of the settings when an address is read, with options
that name neither a database nor credentials. This is the database itself exactly if it is named at
all and its name has no question mark, number sign, tab or line end. -/
theorem opened_file_iff_isPathChar (hdriver : script.driverMissing = false)
    (hsize : SizeReadable .sqlite overrides)
    (hoverride : overrides.has "sqlite_connector_database" = false) (world : World) :
    ∃ (path : Option String) (options : Arguments),
      (run (buildConfig .sqlite s.loose (asTexts overrides) >>= fun config =>
          Dialect.sqlite.connect config.loose) script world).2.calls =
        world.calls ++ openingCalls .sqlite script (.sqlite path options) ∧
      path = nonEmpty? (String.ofList (Address.keptPath s.database.toList)) ∧
      (path = some s.database ↔
        s.database ≠ "" ∧ ∀ c ∈ s.database.toList, Address.isPathChar c = true) ∧
      ∀ option ∈ options, option.1 ≠ "database" ∧ isCredential option.1 = false := by
  have hoverrides : ∀ name ∈ Engine.sqlite.addressNames,
      overrides.has ("sqlite_connector_" ++ name) = false := by
    intro name hname
    rw [List.mem_singleton.mp hname]
    exact hoverride
  obtain ⟨properties, hproperties, hcalls⟩ := @calls_connect_built s overrides script .sqlite .sqlite
    rfl "sqlite:///" rfl (Engine.sizeProperty_free .sqlite) hsize _ (Engine.addressNames_free .sqlite)
    hoverrides
    (fun properties => .sqlite (filePath? (fileAddress s.database))
      (properties.filter fun property => !isCredential property.1))
    (fun config hurl hfree => by
      refine sqliteTarget_of_address hdriver ?_ hfree
      show (Address.ofText? config.connectionUrl).mapError _ = _
      rw [hurl, ofText?_fileUrl]
      rfl) world
  refine ⟨_, _, hcalls, filePath?_fileAddress _, filePath?_eq_some_iff, ?_⟩
  intro option hoption
  obtain ⟨hmem, hcredential⟩ := List.mem_filter.mp hoption
  have hname := hproperties option hmem
  exact ⟨fun h => hname (List.mem_singleton.mpr h), by simpa using hcredential⟩

/-- Settings with a file whose name holds what would have a meaning elsewhere in an address. -/
def oddFile : Settings where
  database := "/srv/données/50%;v=1:[2]@ x.db"

theorem opened_file_of_oddFile :
    (∀ c ∈ oddFile.database.toList, Address.isPathChar c = true) ∧
      ∃ options, (run (buildConfig .sqlite oddFile.loose (asTexts .empty) >>= fun config =>
          Dialect.sqlite.connect config.loose) {} {}).2.calls =
        [.connect (.sqlite (some "/srv/données/50%;v=1:[2]@ x.db") options),
          .execute "PRAGMA foreign_keys = ON"] := by
  have hchars : ∀ c ∈ oddFile.database.toList, Address.isPathChar c = true :=
    List.all_eq_true.mp rfl
  have hsize : SizeReadable .sqlite .empty := by
    rintro text ⟨⟩
  obtain ⟨path, options, hcalls, -, hpath, -⟩ :=
    @opened_file_iff_isPathChar oddFile .empty {} rfl hsize rfl {}
  obtain rfl : path = some oddFile.database := hpath.mpr ⟨by decide, hchars⟩
  exact ⟨hchars, options, hcalls⟩

/-- Settings with a file that has a number in its name. -/
def numberedFile : Settings where
  database := "orders#1.db"

/-- Another file than the one that the settings name is opened. -/
theorem other_file_opened_for_numberedFile :
    numberedFile.database ≠ "" ∧
      (run (buildConfig .sqlite numberedFile.loose (asTexts .empty) >>= fun config =>
        Dialect.sqlite.connect config.loose) {} {}).2.calls =
      [.connect (.sqlite (some "orders") [("timeout", .int 5), ("check_same_thread", .bool false)]),
        .execute "PRAGMA foreign_keys = ON"] :=
  ⟨by decide, rfl⟩

end SqlBackend
