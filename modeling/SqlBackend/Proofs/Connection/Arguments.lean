import Mathlib.Data.List.Find
import SqlBackend.Connection.Connect
import SqlBackend.Proofs.Pool.Config

/-!
# The arguments of the driver

Properties that are texts make arguments in any case: the size is left out, credentials stay as they
are, and the other properties are coerced. They are joined to the arguments that the address gives
unless two of them have one name, and whether they have is seen from the names alone.
-/

namespace SqlBackend

namespace Pool

/-- A text as the driver gets it. -/
def argumentOf (name s : String) : Value := if isCredential name then .text s else coerce s

theorem driverValue_text (name s : String) :
    driverValue name (.text s) = .ok (argumentOf name s) := by
  rw [driverValue, argumentOf]
  cases isCredential name with
  | true => rfl
  | false => rfl

/-- The arguments that properties make which are texts. -/
def argumentsOf (entries : List (String × String)) : Arguments :=
  (entries.filter fun entry => entry.1 ≠ sizeProperty).map fun entry =>
    (entry.1, argumentOf entry.1 entry.2)

theorem argumentsOf_cons_size (s : String) (rest : List (String × String)) :
    argumentsOf ((sizeProperty, s) :: rest) = argumentsOf rest := by
  rw [argumentsOf, List.filter_cons_of_neg (by simp), argumentsOf]

theorem argumentsOf_cons_of_ne {name : String} (h : name ≠ sizeProperty) (s : String)
    (rest : List (String × String)) :
    argumentsOf ((name, s) :: rest) = (name, argumentOf name s) :: argumentsOf rest := by
  rw [argumentsOf, List.filter_cons_of_pos (by simpa using h), List.map_cons, argumentsOf]

theorem driverArguments_texts (entries : List (String × String)) :
    driverArguments (entries.map fun entry => (entry.1, .text entry.2)) =
      .ok (argumentsOf entries) := by
  induction entries with
  | nil => rfl
  | cons entry rest ih =>
      obtain ⟨name, s⟩ := entry
      rw [List.map_cons, driverArguments, ih]
      by_cases hsize : name = sizeProperty
      · subst hsize
        rw [if_pos rfl, argumentsOf_cons_size]
      · rw [if_neg hsize, driverValue_text, argumentsOf_cons_of_ne hsize]
        rfl

end Pool

namespace PoolConfig

/-- The arguments that the properties of a configuration make. -/
def arguments (c : PoolConfig) : Arguments := Pool.argumentsOf c.properties.entries

theorem driverArguments_loose (c : PoolConfig) : c.loose.driverArguments = .ok c.arguments :=
  Pool.driverArguments_texts c.properties.entries

/-- Every property but the size makes one argument. -/
theorem mem_arguments_iff {c : PoolConfig} {name : String} {value : Value} :
    (name, value) ∈ c.arguments ↔
      ∃ s, c.properties.get? name = some s ∧ name ≠ Pool.sizeProperty ∧
        value = Pool.argumentOf name s := by
  rw [arguments, Pool.argumentsOf, List.mem_map]
  constructor
  · rintro ⟨⟨key, s⟩, hmem, heq⟩
    cases heq
    obtain ⟨hentry, hname⟩ := List.mem_filter.mp hmem
    exact ⟨s, Table.get?_eq_some_iff.mpr hentry, by simpa using hname, rfl⟩
  · rintro ⟨s, hget, hname, rfl⟩
    have hentry : (name, s) ∈ c.properties.entries := Table.get?_eq_some_iff.mp hget
    exact ⟨(name, s), List.mem_filter.mpr ⟨hentry, by simpa using hname⟩, rfl⟩

/-- No two arguments have one name. -/
theorem nodup_arguments (c : PoolConfig) : (c.arguments.map Prod.fst).Nodup := by
  rw [arguments, Pool.argumentsOf, List.map_map]
  exact c.properties.distinct.sublist (List.filter_sublist.map _)

/-- No argument has a name that no property has. -/
theorem not_mem_of_free {c : PoolConfig} {names : List String}
    (h : ∀ name ∈ names, c.properties.get? name = none) :
    ∀ argument ∈ c.arguments, argument.1 ∉ names := by
  intro argument hargument hname
  obtain ⟨s, hget, -⟩ := mem_arguments_iff.mp hargument
  rw [h argument.1 hname] at hget
  cases hget

end PoolConfig

namespace Connection

/-- Arguments with each value replaced by its image. -/
def mapArguments (f : String → Value → Value) (arguments : Arguments) : Arguments :=
  arguments.map fun argument => (argument.1, f argument.1 argument.2)

theorem any_mapArguments (f : String → Value → Value) (arguments : Arguments) (p : String → Bool) :
    (mapArguments f arguments).any (fun argument => p argument.1) =
      arguments.any fun argument => p argument.1 := by
  rw [mapArguments, List.any_map]
  rfl

/-- Whether arguments can be joined does not depend on their values. -/
theorem joinArguments_mapArguments (f : String → Value → Value) (own properties : Arguments) :
    joinArguments (mapArguments f own) (mapArguments f properties) =
      (joinArguments own properties).map (mapArguments f) := by
  have hrepeated (argument : String × Value) :
      (mapArguments f properties).any (fun property => property.1 == argument.1) =
        properties.any fun property => property.1 == argument.1 :=
    any_mapArguments f properties fun name => name == argument.1
  have hfind : (mapArguments f own).find? (fun argument =>
        (mapArguments f properties).any fun property => property.1 == argument.1) =
      (own.find? fun argument => properties.any fun property => property.1 == argument.1).map
        fun argument => (argument.1, f argument.1 argument.2) := by
    simp only [hrepeated]
    rw [mapArguments, List.find?_map]
    rfl
  rw [joinArguments, joinArguments, hfind]
  cases own.find? fun argument => properties.any fun property => property.1 == argument.1 with
  | some argument => rfl
  | none =>
      show Except.ok (mapArguments f own ++ mapArguments f properties) =
        Except.ok (mapArguments f (own ++ properties))
      rw [mapArguments, mapArguments, mapArguments, List.map_append]

/-- Arguments are joined when the properties have none of the names that are taken. -/
theorem joinArguments_of_disjoint {own properties : Arguments}
    (h : ∀ argument ∈ own, ∀ property ∈ properties, property.1 ≠ argument.1) :
    joinArguments own properties = .ok (own ++ properties) := by
  have hfind : own.find? (fun argument =>
      properties.any fun property => property.1 == argument.1) = none := by
    rw [List.find?_eq_none]
    intro argument hargument hany
    obtain ⟨property, hproperty, hname⟩ := List.any_eq_true.mp hany
    exact h argument hargument property hproperty (beq_iff_eq.mp hname)
  rw [joinArguments, hfind]

/-- A name that is taken is refused to the properties. -/
theorem exists_joinArguments_error {own properties : Arguments}
    (h : ∃ argument ∈ own, ∃ property ∈ properties, property.1 = argument.1) :
    ∃ name ∈ own.map Prod.fst, joinArguments own properties = .error (.repeatedArgument name) := by
  rw [joinArguments]
  cases hfind : own.find? fun argument => properties.any fun property => property.1 == argument.1 with
  | some argument => exact ⟨argument.1, List.mem_map_of_mem (List.mem_of_find?_eq_some hfind), rfl⟩
  | none =>
      obtain ⟨argument, hargument, property, hproperty, hname⟩ := h
      have hany : (properties.any fun property => property.1 == argument.1) = true :=
        List.any_eq_true.mpr ⟨property, hproperty, beq_iff_eq.mpr hname⟩
      exact absurd hany (List.find?_eq_none.mp hfind argument hargument)

end Connection

end SqlBackend
