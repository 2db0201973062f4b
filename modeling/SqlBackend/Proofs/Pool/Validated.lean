import SqlBackend.Proofs.Pool.Build

/-!
# Building from validated settings

Validated settings have a secret password and a text for a database, and overrides that are texts make
properties that are texts. What is built from them is `validatedConfig`, and a numeral that is too long
is all that building can fail for: the value that asks for a size may have more digits than can be
read, and the port more than can be written.
-/

namespace SqlBackend.Pool

open SqlBackend.Action

/-- Texts as values. -/
def asTexts (t : Table String String) : Table String Value := t.mapValues fun _ s => .text s

theorem get?_asTexts (t : Table String String) (name : String) :
    (asTexts t).get? name = (t.get? name).map .text :=
  Table.get?_mapValues (fun _ s => Value.text s) t name

theorem keys_asTexts (t : Table String String) : (asTexts t).keys = t.keys :=
  Table.keys_mapValues (fun _ s => Value.text s) t

variable (d : Dialect) (s : Settings) (overrides : Table String String)

/-- The properties that validated settings and texts make. -/
def validatedProperties : Table String Value := assembled d s.loose (asTexts overrides)

theorem get?_validatedProperties (name : String) :
    (validatedProperties d s overrides).get? name =
      if name = "user" then some (.text s.user)
      else if name = "password" then some (.text s.password)
      else (if MaySet name ∧ overrides.has (d.propertyPrefix ++ name) then
        overrides.get? (d.propertyPrefix ++ name) else d.defaultProperties.get? name).map .text := by
  have hhas : (asTexts overrides).has (d.propertyPrefix ++ name) =
      overrides.has (d.propertyPrefix ++ name) := by
    rw [Table.has, Table.has, get?_asTexts, Option.isSome_map]
  rw [validatedProperties, get?_assembled, given_or, hhas, get?_asTexts]
  by_cases hset : MaySet name ∧ overrides.has (d.propertyPrefix ++ name)
  · rw [if_pos hset, if_pos hset]
    rfl
  · rw [if_neg hset, if_neg hset]
    rfl

theorem allTexts_validatedProperties : AllTexts (validatedProperties d s overrides) := by
  intro name value hget
  rw [get?_validatedProperties] at hget
  by_cases huser : name = "user"
  · rw [if_pos huser] at hget
    exact ⟨s.user, (Option.some.inj hget).symm⟩
  rw [if_neg huser] at hget
  by_cases hpassword : name = "password"
  · rw [if_pos hpassword] at hget
    exact ⟨s.password, (Option.some.inj hget).symm⟩
  rw [if_neg hpassword] at hget
  obtain ⟨t, -, rfl⟩ := Option.map_eq_some_iff.mp hget
  exact ⟨t, rfl⟩

/-- The configuration of validated settings with a root address and a size. -/
def validatedConfig (url : String) (size : Int) : PoolConfig where
  driver := d.driver
  rootUrl := url
  connectionUrl := url ++ s.database
  supportsStatsCallback := d.supportsStatsCallback
  poolSize := size
  properties := texts (validatedProperties d s overrides)

variable {d s overrides}

/-- A name that neither the overrides nor the defaults know stays free. -/
theorem get?_validatedConfig_of_free {name : String} (huser : name ≠ "user")
    (hpassword : name ≠ "password") (hoverride : overrides.has (d.propertyPrefix ++ name) = false)
    (hdefault : d.defaultProperties.get? name = none) (url : String) (size : Int) :
    (validatedConfig d s overrides url size).properties.get? name = none := by
  have hproperty : (validatedProperties d s overrides).get? name = none := by
    rw [get?_validatedProperties, if_neg huser, if_neg hpassword, hoverride, hdefault]
    simp
  show (texts (validatedProperties d s overrides)).get? name = none
  rw [texts, Table.get?_mapValues, hproperty, Option.map_none]

/-- The overrides ask for no size, or for one whose digits are not too many to be read. -/
def SizeReadable (d : Dialect) (overrides : Table String String) : Prop :=
  ∀ text, overrides.get? (d.propertyPrefix ++ sizeProperty) = some text →
    ∀ digits, SizeRequest.ofValue (.text text) ≠ .tooLong digits

/-- The text that asks for a size: that of the overrides, or else the default. -/
def sizeText? (d : Dialect) (overrides : Table String String) : Option String :=
  (overrides.get? (d.propertyPrefix ++ sizeProperty)).or (d.defaultProperties.get? sizeProperty)

theorem askedSize_eq_sizeText? (d : Dialect) (s : Settings) (overrides : Table String String) :
    askedSize (validatedProperties d s overrides) =
      ((sizeText? d overrides).map Value.text).getD .null := by
  have hset : MaySet sizeProperty := by decide
  rw [askedSize, get?_validatedProperties, if_neg (by decide), if_neg (by decide), sizeText?]
  cases hget : overrides.get? (d.propertyPrefix ++ sizeProperty) with
  | none => simp [Table.has, hget]
  | some text => simp [Table.has, hget, hset]

/-- The value that asks for a size comes from the overrides. -/
theorem askedSize_validatedProperties (hdefault : d.defaultProperties.get? sizeProperty = none) :
    askedSize (validatedProperties d s overrides) =
      ((overrides.get? (d.propertyPrefix ++ sizeProperty)).map Value.text).getD .null := by
  rw [askedSize_eq_sizeText?, sizeText?, hdefault, Option.or_none]

theorem exists_size_of_readable (hdefault : d.defaultProperties.get? sizeProperty = none)
    (h : SizeReadable d overrides) :
    ∃ size, sizeFor (askedSize (validatedProperties d s overrides)) defaultSize = .ok size := by
  rw [askedSize_validatedProperties hdefault]
  cases hget : overrides.get? (d.propertyPrefix ++ sizeProperty) with
  | none => exact ⟨_, rfl⟩
  | some text =>
      have hreadable := h text hget
      show ∃ size, sizeFor (.text text) defaultSize = .ok size
      rw [sizeFor]
      cases hrequest : SizeRequest.ofValue (.text text) with
      | tooLong digits => exact absurd hrequest (hreadable digits)
      | nothing | unreadable | zero | size => exact ⟨_, rfl⟩

theorem run_buildConfig_of_size {url : String} {size : Int} (hurl : d.rootUrl s.loose = .ok url)
    (hsize : sizeFor (askedSize (validatedProperties d s overrides)) defaultSize = .ok size)
    (script : Script) (world : World) :
    run (buildConfig d s.loose (asTexts overrides)) script world =
      (.ok (validatedConfig d s overrides url size),
        world.extend [] (buildRecords d s.loose (asTexts overrides) size)) := by
  refine run_buildConfig_eq_ok_iff.mpr ⟨?_, rfl⟩
  exact {
    password := ⟨s.password, rfl⟩
    poolSize := hsize
    rootUrl := hurl
    connectionUrl := ⟨s.database, rfl, rfl⟩
    allTexts := allTexts_validatedProperties d s overrides
    properties := rfl
    driver := rfl
    loggerUrl := rfl
    supportsStatsCallback := rfl
    propertiesSealed := rfl }

variable (d s overrides) in
/-- The credentials of validated settings complete the properties. -/
theorem withCredentials_loose :
    withCredentials s.loose (overlay d (asTexts overrides).entries
      (d.defaultProperties.mapValues fun _ v => .text v)) = .ok (validatedProperties d s overrides) :=
  withCredentials_overlay_eq_ok_iff.mpr ⟨⟨s.password, rfl⟩, rfl⟩

/-- Nothing is built for a size that cannot be read. -/
theorem run_buildConfig_of_size_error {fault : Fault}
    (hsize : sizeFor (askedSize (validatedProperties d s overrides)) defaultSize = .error fault)
    (script : Script) (world : World) :
    run (buildConfig d s.loose (asTexts overrides)) script world =
      (.error fault, world.extend [] (overrideRecords d (asTexts overrides).entries ++
        sizeWarnings (askedSize (validatedProperties d s overrides)) defaultSize)) := by
  have hresolve := run_resolveSize (askedSize (validatedProperties d s overrides)) defaultSize script
    (world.extend [] (overrideRecords d (asTexts overrides).entries))
  rw [hsize] at hresolve
  rw [buildConfig, run_bind_of_ok (run_connectorProperties d (asTexts overrides) script world)]
  show run (ofExcept (withCredentials _ _) >>= _) script _ = _
  rw [withCredentials_loose, run_bind_of_ok (run_ofExcept _ _ _)]
  refine (run_bind_of_error hresolve).trans ?_
  rw [World.extend_extend]
  rfl

/-- Nothing is built for an address that cannot be written. -/
theorem run_buildConfig_of_url_error {fault : Fault} {size : Int}
    (hurl : d.rootUrl s.loose = .error fault)
    (hsize : sizeFor (askedSize (validatedProperties d s overrides)) defaultSize = .ok size)
    (script : Script) (world : World) :
    run (buildConfig d s.loose (asTexts overrides)) script world =
      (.error fault, world.extend [] (buildRecords d s.loose (asTexts overrides) size)) := by
  have hresolve := run_resolveSize (askedSize (validatedProperties d s overrides)) defaultSize script
    (world.extend [] (overrideRecords d (asTexts overrides).entries))
  rw [hsize] at hresolve
  rw [buildConfig, run_bind_of_ok (run_connectorProperties d (asTexts overrides) script world)]
  show run (ofExcept (withCredentials _ _) >>= _) script _ = _
  rw [withCredentials_loose, run_bind_of_ok (run_ofExcept _ _ _)]
  refine (run_bind_of_ok hresolve).trans ?_
  rw [run_bind_of_ok (run_log_eq_extend _ _ _), hurl]
  refine (run_bind_of_error (run_ofExcept _ _ _)).trans ?_
  rw [World.extend_extend, World.extend_extend]
  rfl

end SqlBackend.Pool
