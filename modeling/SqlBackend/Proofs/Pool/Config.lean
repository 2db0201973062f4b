import SqlBackend.Pool.Config
import SqlBackend.Proofs.Table

/-!
# Checked properties and equal configurations

Properties pass their check when all of them are texts, and then the check keeps each of them as it
is. Configurations count as equal as soon as their properties are the same map; the order in which the
properties were put together is not compared. The properties of a configuration are sealed exactly
when they were given, and empty when they were not.
-/

namespace SqlBackend

namespace Checked

variable {α β : Type}

theorem seq_eq_valid_iff {f : Checked (α → β)} {a : Checked α} {b : β} :
    f <*> a = .valid b ↔ ∃ g x, f = .valid g ∧ a = .valid x ∧ b = g x := by
  show apply f a = _ ↔ _
  cases f with
  | invalid complaints => simp [apply]
  | valid g =>
      cases a with
      | invalid complaints => simp [apply]
      | valid x => simp [apply, eq_comm]

theorem map_eq_valid_iff {f : α → β} {a : Checked α} {b : β} :
    f <$> a = .valid b ↔ ∃ x, a = .valid x ∧ b = f x := by
  show (valid f <*> a) = _ ↔ _
  simp [seq_eq_valid_iff]

theorem toExcept_eq_ok_iff {a : Checked α} {b : α} : a.toExcept = .ok b ↔ a = .valid b := by
  cases a with
  | valid c => simp
  | invalid complaints => simp

end Checked

namespace Pool

/-- Whether all properties are texts. -/
def AllTexts (properties : Table String Value) : Prop :=
  ∀ name value, properties.get? name = some value → ∃ s, value = .text s

/-- The properties as texts. -/
def texts (properties : Table String Value) : Table String String :=
  properties.mapValues fun _ value => value.shown

theorem propertyComplaints_eq_nil_iff {t : Table String Value} :
    propertyComplaints t = [] ↔ AllTexts t := by
  rw [propertyComplaints, List.filterMap_eq_nil_iff]
  constructor
  · intro h name value hget
    have hentry := h (name, value) (Table.get?_eq_some_iff.mp hget)
    cases value with
    | text s => exact ⟨s, rfl⟩
    | _ => cases hentry
  · intro h entry hmem
    obtain ⟨name, value⟩ := entry
    obtain ⟨s, rfl⟩ := h name value (Table.get?_eq_some_iff.mpr hmem)
    rfl

theorem checkProperties_of_allTexts {t : Table String Value} (h : AllTexts t) :
    checkProperties t = .valid (texts t) := by
  rw [checkProperties, propertyComplaints_eq_nil_iff.mpr h]
  rfl

theorem exists_checkProperties_eq_invalid {t : Table String Value} (h : ¬ AllTexts t) :
    ∃ complaints, checkProperties t = .invalid complaints := by
  rw [checkProperties]
  cases hcomplaints : propertyComplaints t with
  | nil => exact absurd (propertyComplaints_eq_nil_iff.mp hcomplaints) h
  | cons complaint rest => exact ⟨complaint :: rest, rfl⟩

/-- The check keeps the properties as they are. -/
theorem get?_texts {t : Table String Value} (h : AllTexts t) (name : String) :
    ((texts t).get? name).map Value.text = t.get? name := by
  rw [texts, Table.get?_mapValues]
  cases hget : t.get? name with
  | none => rfl
  | some value =>
      obtain ⟨s, rfl⟩ := h name value hget
      rw [Option.map_some, Option.map_some, Value.shown_text]

/-- Tables of the same map pass the check together. -/
theorem AllTexts.congr {t u : Table String Value} (h : AllTexts t)
    (hget : ∀ name, u.get? name = t.get? name) : AllTexts u := by
  intro name value hvalue
  rw [hget] at hvalue
  exact h name value hvalue

end Pool

namespace PoolConfig

theorem lookup_loose (entries : List (String × String)) (name : String) :
    (entries.map fun entry => (entry.1, Value.text entry.2)).lookup name =
      (Table.lookupEntry name entries).map Value.text := by
  induction entries with
  | nil => rfl
  | cons entry rest ih =>
      obtain ⟨key, value⟩ := entry
      rw [List.map_cons]
      by_cases hkey : key = name
      · subst hkey
        rw [Table.lookupEntry_cons_self, List.lookup_cons_self, Option.map_some]
      · rw [Table.lookupEntry_cons_of_ne value rest hkey, ← ih, List.lookup_cons]
        have hbeq : (name == key) = false := beq_eq_false_iff_ne.mpr (Ne.symm hkey)
        rw [hbeq]

theorem sameEntries_of_forall {xs : List (String × String)} {ys : List (String × Value)}
    (h : ∀ entry ∈ xs, ys.lookup entry.1 = some (.text entry.2)) :
    Value.sameEntries (xs.map fun entry => (entry.1, .text entry.2)) ys = true := by
  induction xs with
  | nil => rw [List.map_nil, Value.sameEntries]
  | cons entry rest ih =>
      have hentry := h entry List.mem_cons_self
      have hrest := ih fun other hother => h other (List.mem_cons_of_mem entry hother)
      rw [List.map_cons, Value.sameEntries, hentry, hrest]
      simp [Value.same]

/-- Configurations with the same fields and the same map of properties are equal. -/
theorem same_of_get?_eq {c e : PoolConfig} (hfields : c = { e with properties := c.properties })
    (hget : ∀ name, c.properties.get? name = e.properties.get? name) :
    c.loose.same (fun _ => false) e.loose = true := by
  have hlength : c.properties.entries.length = e.properties.entries.length :=
    (Table.perm_of_get?_eq hget).length_eq
  have hentries : Value.sameEntries
      (c.properties.entries.map fun entry => (entry.1, .text entry.2))
      (e.properties.entries.map fun entry => (entry.1, .text entry.2)) = true := by
    apply sameEntries_of_forall
    intro entry hmem
    have hlookup : Table.lookupEntry entry.1 e.properties.entries = some entry.2 := by
      have hentry : c.properties.get? entry.1 = some entry.2 := Table.get?_eq_some_iff.mpr hmem
      rw [hget] at hentry
      exact hentry
    rw [lookup_loose, hlookup, Option.map_some]
  have hproperties : c.loose.properties.same e.loose.properties = true := by
    simp only [loose, Value.same, List.length_map, hlength, hentries, BEq.rfl, Bool.and_self]
  have hlogger : c.loose.loggerUrl.same e.loose.loggerUrl = true := by
    rw [hfields]
    cases h : e.loggerUrl with
    | none => simp [loose, h, Value.same]
    | some url => simp [loose, h, Value.same]
  rw [LooseConfig.same, hproperties, hlogger, hfields]
  simp [loose, Value.same, Value.amount?, Value.sameAmount]

theorem propertiesSealed_of_ofFields {fields : List (String × Value)} {config : PoolConfig}
    (h : ofFields fields = .ok config) :
    config.propertiesSealed = (fields.lookup "properties").isSome ∧
      (config.propertiesSealed = false → config.properties = .empty) := by
  rw [ofFields, Checked.toExcept_eq_ok_iff] at h
  obtain ⟨_, isSealed, hproperties, hsealed, rfl⟩ := Checked.seq_eq_valid_iff.mp h
  obtain ⟨_, properties, hsize, hgiven, rfl⟩ := Checked.seq_eq_valid_iff.mp hproperties
  obtain ⟨_, size, hcallback, -, rfl⟩ := Checked.seq_eq_valid_iff.mp hsize
  obtain ⟨_, callback, hlogger, -, rfl⟩ := Checked.seq_eq_valid_iff.mp hcallback
  obtain ⟨_, loggerUrl, hconnection, -, rfl⟩ := Checked.seq_eq_valid_iff.mp hlogger
  obtain ⟨_, connectionUrl, hroot, -, rfl⟩ := Checked.seq_eq_valid_iff.mp hconnection
  obtain ⟨_, rootUrl, hdriver, -, rfl⟩ := Checked.seq_eq_valid_iff.mp hroot
  obtain ⟨driver, -, rfl⟩ := Checked.map_eq_valid_iff.mp hdriver
  cases hsealed
  refine ⟨rfl, fun hopen => ?_⟩
  have hopen' : (fields.lookup "properties").isSome = false := hopen
  have habsent : fields.lookup "properties" = none := Option.isSome_eq_false_iff.mp hopen' |>
    Option.isNone_iff_eq_none.mp
  rw [habsent] at hgiven
  cases hgiven
  rfl

end PoolConfig

end SqlBackend
