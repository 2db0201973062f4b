import SqlBackend.Pool.Properties
import SqlBackend.Proofs.Action.Trace
import SqlBackend.Proofs.Table

/-!
# What the overrides do to the properties

An override acts on one property, `overrideName?`, and no two keys act on the same one: the key is the
beginning of the dialect followed by the name. Since no key of a table occurs twice, no override acts
over another one, and the properties can be read off the overrides by their keys, whatever their
order. What is written down for them keeps the order.
-/

namespace SqlBackend.Pool

open SqlBackend.Text SqlBackend.Action

/-- The names that an override may set. -/
def MaySet (name : String) : Prop := name ≠ "" ∧ lower name ≠ "logger"

instance (name : String) : Decidable (MaySet name) :=
  inferInstanceAs (Decidable (name ≠ "" ∧ lower name ≠ "logger"))

/-- Whether a key starts as the overrides of a dialect do. -/
def isPrefixed (d : Dialect) (key : String) : Bool :=
  d.propertyPrefix.toList.isPrefixOf key.toList

theorem isPrefixed_iff {d : Dialect} {key : String} :
    isPrefixed d key = true ↔ ∃ name, key = d.propertyPrefix ++ name := by
  rw [isPrefixed, List.isPrefixOf_iff_prefix]
  constructor
  · rintro ⟨rest, hrest⟩
    refine ⟨String.ofList rest, ?_⟩
    rw [← String.toList_inj, String.toList_append, String.toList_ofList, hrest]
  · rintro ⟨name, rfl⟩
    rw [String.toList_append]
    exact List.prefix_append _ _

theorem overrideName?_append (d : Dialect) (name : String) :
    overrideName? d (d.propertyPrefix ++ name) = if MaySet name then some name else none := by
  have hstart : isPrefixed d (d.propertyPrefix ++ name) = true := isPrefixed_iff.mpr ⟨name, rfl⟩
  have hname : String.ofList ((d.propertyPrefix ++ name).toList.drop d.propertyPrefix.toList.length)
      = name := by
    rw [String.toList_append, List.drop_left, String.ofList_toList]
  rw [isPrefixed] at hstart
  simp only [overrideName?, hstart, if_true, hname]
  by_cases hempty : name = ""
  · simp [MaySet, hempty]
  · by_cases hreserved : lower name = "logger"
    · simp [MaySet, reservedProperty, hreserved]
    · simp [MaySet, reservedProperty, hempty, hreserved]

theorem overrideName?_of_not_isPrefixed {d : Dialect} {key : String}
    (h : isPrefixed d key = false) : overrideName? d key = none := by
  rw [isPrefixed] at h
  simp only [overrideName?, h]
  rfl

/-- A key sets a property exactly when it is the beginning of the dialect with the name after it. -/
theorem overrideName?_eq_some_iff {d : Dialect} {key name : String} :
    overrideName? d key = some name ↔ key = d.propertyPrefix ++ name ∧ MaySet name := by
  constructor
  · intro h
    cases hstart : isPrefixed d key with
    | false =>
        rw [overrideName?_of_not_isPrefixed hstart] at h
        cases h
    | true =>
        obtain ⟨rest, rfl⟩ := isPrefixed_iff.mp hstart
        rw [overrideName?_append] at h
        by_cases hset : MaySet rest
        · rw [if_pos hset] at h
          cases h
          exact ⟨rfl, hset⟩
        · rw [if_neg hset] at h
          cases h
  · rintro ⟨rfl, hset⟩
    rw [overrideName?_append, if_pos hset]

/-- The properties with the overrides put over them. -/
def overlay (d : Dialect) :
    List (String × Value) → Table String Value → Table String Value
  | [], properties => properties
  | (key, value) :: rest, properties =>
    match overrideName? d key with
    | none => overlay d rest properties
    | some name => overlay d rest (properties.put name value)

/-- The record of an override hides the value of a property that is a credential in any case. -/
theorem overrideRecord_eq (d : Dialect) (name : String) (value : Value) :
    overrideRecord d name value =
      { level := .info
        origin := .pool
        message := "Setting " ++ d.name ++ " connector property: " ++ name ++ "=" ++
          if lower name = "user" ∨ lower name = "password" then "****" else value.shown } := by
  simp [overrideRecord, isCredential]

/-- The records of the overrides that set a property, in order. -/
def overrideRecords (d : Dialect) (entries : List (String × Value)) : List Record :=
  entries.filterMap fun entry =>
    (overrideName? d entry.1).map fun name => overrideRecord d name entry.2

theorem overlay_cons_of_none {d : Dialect} {key : String} (h : overrideName? d key = none)
    (value : Value) (rest : List (String × Value)) (t : Table String Value) :
    overlay d ((key, value) :: rest) t = overlay d rest t := by
  rw [overlay, h]

theorem overlay_cons_of_some {d : Dialect} {key name : String}
    (h : overrideName? d key = some name) (value : Value) (rest : List (String × Value))
    (t : Table String Value) :
    overlay d ((key, value) :: rest) t = overlay d rest (t.put name value) := by
  rw [overlay, h]

theorem overrideRecords_cons_of_none {d : Dialect} {key : String}
    (h : overrideName? d key = none) (value : Value) (rest : List (String × Value)) :
    overrideRecords d ((key, value) :: rest) = overrideRecords d rest := by
  rw [overrideRecords, List.filterMap_cons_none (by rw [h]; rfl), overrideRecords]

theorem overrideRecords_cons_of_some {d : Dialect} {key name : String}
    (h : overrideName? d key = some name) (value : Value) (rest : List (String × Value)) :
    overrideRecords d ((key, value) :: rest) =
      overrideRecord d name value :: overrideRecords d rest := by
  rw [overrideRecords, List.filterMap_cons_some (by rw [h]; rfl), overrideRecords]

theorem level_of_mem_overrideRecords {d : Dialect} {entries : List (String × Value)} {r : Record}
    (h : r ∈ overrideRecords d entries) : r.level = .info := by
  obtain ⟨entry, -, hentry⟩ := List.mem_filterMap.mp h
  obtain ⟨name, -, rfl⟩ := Option.map_eq_some_iff.mp hentry
  rfl

theorem run_applyOverrides (d : Dialect) (entries : List (String × Value))
    (t : Table String Value) (script : Script) (world : World) :
    run (applyOverrides d entries t) script world =
      (.ok (overlay d entries t), world.extend [] (overrideRecords d entries)) := by
  induction entries generalizing t world with
  | nil => rw [applyOverrides, run_pure, overlay, overrideRecords, List.filterMap_nil,
      World.extend_nil]
  | cons entry rest ih =>
      obtain ⟨key, value⟩ := entry
      cases hname : overrideName? d key with
      | none =>
          rw [applyOverrides, hname, overlay_cons_of_none hname,
            overrideRecords_cons_of_none hname]
          exact ih t world
      | some name =>
          rw [applyOverrides, hname, overlay_cons_of_some hname,
            overrideRecords_cons_of_some hname]
          show run (log (overrideRecord d name value) >>= fun _ =>
            applyOverrides d rest (t.put name value)) script world = _
          rw [run_bind_of_ok (run_log_eq_extend _ script world), ih, World.extend_extend]
          rfl

/-- A key that does not start as the overrides do might as well be left out. -/
theorem applyOverrides_filter (d : Dialect) (entries : List (String × Value))
    (t : Table String Value) :
    applyOverrides d (entries.filter fun entry => isPrefixed d entry.1) t =
      applyOverrides d entries t := by
  induction entries generalizing t with
  | nil => rfl
  | cons entry rest ih =>
      obtain ⟨key, value⟩ := entry
      cases hstart : isPrefixed d key with
      | false =>
          rw [List.filter_cons_of_neg (by simp [hstart]), ih]
          rw [applyOverrides, overrideName?_of_not_isPrefixed hstart]
      | true =>
          rw [List.filter_cons_of_pos (by exact hstart)]
          cases hname : overrideName? d key with
          | none =>
              rw [applyOverrides, applyOverrides, hname]
              exact ih t
          | some name =>
              rw [applyOverrides, applyOverrides, hname]
              show (log _ >>= fun _ => applyOverrides d _ _) =
                (log _ >>= fun _ => applyOverrides d _ _)
              rw [ih]

/-- What the overrides have for a property. -/
def given (d : Dialect) (entries : List (String × Value)) (name : String) : Option Value :=
  if MaySet name then Table.lookupEntry (d.propertyPrefix ++ name) entries else none

theorem given_cons_of_ne {d : Dialect} {key name : String} (h : overrideName? d key ≠ some name)
    (value : Value) (rest : List (String × Value)) :
    given d ((key, value) :: rest) name = given d rest name := by
  by_cases hset : MaySet name
  · have hkey : key ≠ d.propertyPrefix ++ name := by
      intro hkey
      exact h (overrideName?_eq_some_iff.mpr ⟨hkey, hset⟩)
    rw [given, given, if_pos hset, if_pos hset, Table.lookupEntry_cons_of_ne value rest hkey]
  · rw [given, given, if_neg hset, if_neg hset]

/-- A property has the value that the overrides have for it, or else keeps its own. -/
theorem get?_overlay (d : Dialect) {entries : List (String × Value)}
    (hkeys : (entries.map Prod.fst).Nodup) (t : Table String Value) (name : String) :
    (overlay d entries t).get? name = (given d entries name).or (t.get? name) := by
  induction entries generalizing t with
  | nil =>
      have hgiven : given d [] name = none := by
        rw [given, Table.lookupEntry_nil, ite_self]
      rw [overlay, hgiven, Option.none_or]
  | cons entry rest ih =>
      obtain ⟨key, value⟩ := entry
      obtain ⟨hkey, hrest⟩ := List.nodup_cons.mp hkeys
      cases hname : overrideName? d key with
      | none =>
          have hne : overrideName? d key ≠ some name := by
            rw [hname]
            intro h
            cases h
          rw [overlay_cons_of_none hname, ih hrest, given_cons_of_ne hne]
      | some own =>
          rw [overlay_cons_of_some hname, ih hrest]
          by_cases heq : own = name
          · subst heq
            -- no other key sets this property, so the value put now is the one that stays
            obtain ⟨rfl, hset⟩ := overrideName?_eq_some_iff.mp hname
            rw [given, given, if_pos hset, if_pos hset, Table.lookupEntry_cons_self,
              Table.lookupEntry_eq_none_of_not_mem hkey, Table.get?_put_self, Option.none_or,
              Option.some_or]
          · have hne : overrideName? d key ≠ some name := by
              rw [hname]
              exact fun h => heq (Option.some.inj h)
            rw [given_cons_of_ne hne, Table.get?_put_of_ne t value heq]

end SqlBackend.Pool
