import Mathlib.Logic.Function.Basic
import SqlBackend.Proofs.Connection.Arguments
import SqlBackend.Proofs.Session.Step

/-!
# Configurations that never change

No field of a configuration can be assigned to, and sealed properties take no entries. Copies of a
configuration share its properties, so an entry that is put into the properties of one configuration
shows in others as well. It can reach sealed properties only if a table could be sealed for one
configuration and open for another. `Session.Orderly` says that this does not happen: every table was
made in a step of its own, and what was made in one step is sealed for all or for none. With it, a
configuration is kept as it is by every command that does not give its name away (`Leads.keeps`).

Properties that were left out are open, and then entries can be put into them. So a configuration
never changes exactly when its properties were given to it, or were built.
-/

namespace SqlBackend

open SqlBackend.Action

/-- Whether the properties of a configuration are from a step before the next one, and sealed exactly
if that step makes sealed properties. -/
def Entity.SealedAs (isSealed : Nat → Bool) (next : Nat) : Entity → Prop
  | .config c origins =>
    ∃ step < next, origins.get? "properties" = some step ∧ c.propertiesSealed = isSealed step
  | _ => True

namespace Entity

variable {isSealed : Nat → Bool} {next : Nat} {entity : Entity}

/-- The next step may seal what it makes or not. -/
theorem SealedAs.update (h : entity.SealedAs isSealed next) (b : Bool) :
    entity.SealedAs (Function.update isSealed next b) (next + 1) := by
  cases entity with
  | config config origins =>
      obtain ⟨step, hlt, hget, hsealed⟩ := h
      refine ⟨step, Nat.lt_succ_of_lt hlt, hget, ?_⟩
      rw [Function.update_of_ne (Nat.ne_of_lt hlt), hsealed]
  | _ => trivial

theorem SealedAs.shareProperties (h : entity.SealedAs isSealed next) (origins : Origins)
    (properties : Value) : (entity.shareProperties origins properties).SealedAs isSealed next := by
  cases entity with
  | config config others =>
      obtain ⟨step, hlt, hget, hsealed⟩ := h
      refine ⟨step, hlt, hget, ?_⟩
      rw [← hsealed]
      split <;> rfl
  | _ => trivial

end Entity

namespace Session

variable {s later : Session} {command : Command} {name : String} {entity : Entity}

/-- No table of properties is sealed for one configuration and open for another. -/
def Orderly (s : Session) : Prop :=
  ∃ isSealed, ∀ name entity, s.find name = .ok entity → entity.SealedAs isSealed s.next

theorem orderly_empty : ({} : Session).Orderly := by
  refine ⟨fun _ => false, fun name entity hfind => ?_⟩
  cases find_eq_ok_iff.mp hfind

theorem Orderly.eq_of_shared (h : s.Orderly) {a b : String} {config other : LooseConfig}
    {origins others : Origins} (ha : s.find a = .ok (.config config origins))
    (hb : s.find b = .ok (.config other others))
    (hshared : origins.shared others "properties" = true) :
    config.propertiesSealed = other.propertiesSealed := by
  obtain ⟨isSealed, hall⟩ := h
  obtain ⟨step, -, hget, hsealed⟩ := hall a _ ha
  obtain ⟨step', -, hget', hsealed'⟩ := hall b _ hb
  have hsame : step' = step := by
    rw [Origins.shared, hget, hget'] at hshared
    simpa using hshared
  rw [hsealed, hsealed', hsame]

/-- The step that makes an entity is not the step that anything else is from. -/
theorem Makes.exists_sealedAs {isSealed : Nat → Bool} (h : s.Makes entity)
    (hall : ∀ name entity, s.find name = .ok entity → entity.SealedAs isSealed s.next) :
    ∃ b, entity.SealedAs (Function.update isSealed s.next b) (s.next + 1) := by
  cases h with
  | config config =>
      refine ⟨config.propertiesSealed, s.next, Nat.lt_succ_self _, Origins.get?_ofConfig s.next, ?_⟩
      rw [Function.update_self]
      rfl
  | @copy source config origins hfind changes =>
      obtain ⟨step, hlt, hget, hsealed⟩ := hall source _ hfind
      -- replaced properties are from this step and open, others are from an earlier step
      refine ⟨false, ?_⟩
      by_cases hreplaced : changes.any (·.1 == "properties") = true
      · refine ⟨s.next, Nat.lt_succ_self _, ?_, ?_⟩
        · rw [Origins.get?_replace, if_pos hreplaced]
        · rw [LooseConfig.propertiesSealed_update, hreplaced, Function.update_self, Bool.not_true,
            Bool.and_false]
      · refine ⟨step, Nat.lt_succ_of_lt hlt, ?_, ?_⟩
        · rw [Origins.get?_replace, if_neg hreplaced, hget]
        · rw [LooseConfig.propertiesSealed_update, Bool.eq_false_iff.mpr hreplaced, Bool.not_false,
            Bool.and_true, hsealed, Function.update_of_ne (Nat.ne_of_lt hlt)]
  | _ => exact ⟨false, trivial⟩

theorem Orderly.define (h : s.Orderly) (hmade : s.Makes entity) (name : String) :
    (s.define name entity).Orderly := by
  obtain ⟨isSealed, hall⟩ := h
  obtain ⟨b, hentity⟩ := hmade.exists_sealedAs hall
  refine ⟨Function.update isSealed s.next b, fun other found hfind => ?_⟩
  by_cases hname : name = other
  · subst hname
    rw [find_define_self] at hfind
    cases hfind
    exact hentity
  · rw [find_define_of_ne s entity hname] at hfind
    exact (hall other found hfind).update b

theorem Leads.orderly (h : s.Leads command later) (hs : s.Orderly) : later.Orderly := by
  cases h with
  | same => exact hs
  | environment environment => exact hs
  | define hname hmade => exact hs.define hmade _
  | put hput =>
      obtain ⟨config, origins, changed, -, -, rfl⟩ := putProperty_eq_ok_iff.mp hput
      obtain ⟨isSealed, hall⟩ := hs
      refine ⟨isSealed, fun other found hfind => ?_⟩
      obtain ⟨before, hbefore, rfl⟩ := find_shareProperties_eq_ok_iff.mp hfind
      exact (hall other before hbefore).shareProperties origins changed.properties

theorem orderly_after (commands : List (Command × Script)) :
    (({} : Session).after commands).Orderly :=
  after_induction orderly_empty fun _ _ _ _ h hs => h.orderly hs

/-- Of the fields of a configuration nothing has changed but properties that are open. -/
structure Keeps (config : LooseConfig) (origins : Origins) (name : String) (s : Session) : Prop where
  orderly : s.Orderly
  found : ∃ properties, s.find name = .ok (.config { config with properties := properties } origins) ∧
    (config.propertiesSealed = true → properties = config.properties)

theorem Leads.keeps {config : LooseConfig} {origins : Origins} (h : s.Leads command later)
    (hname : command.defines? ≠ some name) (hs : s.Keeps config origins name) :
    later.Keeps config origins name := by
  refine ⟨h.orderly hs.orderly, ?_⟩
  obtain ⟨properties, hfind, hsealed⟩ := hs.found
  cases h with
  | same => exact ⟨properties, hfind, hsealed⟩
  | environment environment => exact ⟨properties, hfind, hsealed⟩
  | @define other entity hdefines hmade =>
      have hne : other ≠ name := by
        rintro rfl
        exact hname hdefines
      exact ⟨properties, (find_define_of_ne s entity hne).trans hfind, hsealed⟩
  | put hput =>
      -- an entry that was put into another configuration gets here through a shared table only
      obtain ⟨source, others, changed, hsource, hchanged, rfl⟩ := putProperty_eq_ok_iff.mp hput
      by_cases hshared : others.shared origins "properties" = true
      · refine ⟨changed.properties, find_shareProperties_eq_ok_iff.mpr ⟨_, hfind, ?_⟩, fun hs' => ?_⟩
        · rw [Entity.shareProperties, if_pos hshared]
        · have hopen : source.propertiesSealed = false :=
            (LooseConfig.putProperty_eq_ok_iff.mp hchanged).1
          have heq := hs.orderly.eq_of_shared hsource hfind hshared
          rw [hopen, hs'] at heq
          cases heq
      · refine ⟨properties, find_shareProperties_eq_ok_iff.mpr ⟨_, hfind, ?_⟩, hsealed⟩
        rw [Entity.shareProperties, if_neg hshared]

/-- No field of what has the name can be assigned to. A name with an underscore in front is no field. -/
def RefusesAssignment (s : Session) (name : String) : Prop :=
  ∀ field script, field.toList.head? ≠ some '_' →
    s.step (.assign name field) script = (.error (.frozenField field), {}, s)

/-- The configuration has its name and is shown as it is, and what is done to it changes nothing: no
field can be assigned to, no entry can be put into its properties, and the arguments that are handed
out are made anew. -/
structure Guards (s : Session) (name : String) (config : PoolConfig) : Prop where
  found : s.findConfig name = .ok config.loose
  assign : s.RefusesAssignment name
  view : ∀ script, s.step (.view name) script =
    (.ok (.shown (.config config.loose
      (config.properties.entries.map fun entry => (entry.1, .text entry.2)) config.arguments)), {}, s)
  putProperty : ∀ key value script,
    s.step (.putProperty name key value) script = (.error .wrongType, {}, s)
  changeArgument : ∀ key value script,
    s.step (.changeArgument name key value) script = (.ok (.arguments config.arguments), {}, s)

section Found

variable {config : LooseConfig} {origins : Origins}

theorem findConfig_of_find (h : s.find name = .ok (.config config origins)) :
    s.findConfig name = .ok config := by
  rw [findConfig, h]
  rfl

theorem refusesAssignment_of_find (h : s.find name = .ok (.config config origins)) :
    s.RefusesAssignment name := by
  intro field script hfield
  have hassign : (Entity.config config origins).assign field = .error (.frozenField field) := by
    have hhead : (field.toList.head? == some '_') = false := beq_eq_false_iff_ne.mpr hfield
    show Entity.assignFrozen field = _
    rw [Entity.assignFrozen, hhead]
    rfl
  apply step_of_error
  show run (ofExcept (s.find name) >>= fun entity => ofExcept (entity.assign field) >>= _) script
    {} = _
  rw [h, run_bind_of_ok (run_ofExcept _ _ _), hassign, run_bind_of_error (run_ofExcept _ _ _)]

theorem step_view_of_find {shown : Shown} (h : s.find name = .ok (.config config origins))
    (hshown : config.shown = .ok shown) (script : Script) :
    s.step (.view name) script = (.ok (.shown shown), {}, s) := by
  apply step_eq_ok_iff.mpr
  show run (ofExcept (s.find name) >>= fun entity => ofExcept entity.shown >>= _) script {} = _
  rw [h, run_bind_of_ok (run_ofExcept _ _ _), Entity.shown, hshown,
    run_bind_of_ok (run_ofExcept _ _ _)]
  rfl

theorem step_putProperty_of_find {fault : Fault} {key : String} {value : Value}
    (h : s.find name = .ok (.config config origins))
    (hput : config.putProperty key value = .error fault) (script : Script) :
    s.step (.putProperty name key value) script = (.error fault, {}, s) := by
  have hsession : s.putProperty name key value = .error fault := by
    rw [putProperty, h]
    show (config.putProperty key value >>= _) = _
    rw [hput]
    rfl
  apply step_of_error
  show run (ofExcept (s.putProperty name key value) >>= _) script {} = _
  rw [hsession, run_bind_of_error (run_ofExcept _ _ _)]

theorem step_changeArgument_of_find {arguments : Arguments}
    (h : s.find name = .ok (.config config origins))
    (harguments : config.driverArguments = .ok arguments) (key : String) (value : Value)
    (script : Script) :
    s.step (.changeArgument name key value) script = (.ok (.arguments arguments), {}, s) := by
  apply step_eq_ok_iff.mpr
  show run (ofExcept (s.findConfig name) >>= fun config => ofExcept config.driverArguments >>= _)
    script {} = _
  rw [findConfig_of_find h, run_bind_of_ok (run_ofExcept _ _ _), harguments,
    run_bind_of_ok (run_ofExcept _ _ _)]
  rfl

end Found

theorem guards_of_find {config : PoolConfig} {origins : Origins}
    (h : s.find name = .ok (.config config.loose origins))
    (hsealed : config.propertiesSealed = true) : s.Guards name config where
  found := findConfig_of_find h
  assign := refusesAssignment_of_find h
  view := by
    apply step_view_of_find h
    show (do return Shown.config _ _ (← Pool.driverArguments _)) = _
    rw [Pool.driverArguments_texts]
    rfl
  putProperty key value :=
    step_putProperty_of_find h (LooseConfig.putProperty_of_sealed hsealed key value)
  changeArgument := step_changeArgument_of_find h config.driverArguments_loose

/-- Entries can be put into properties that were left out, and they show in the configuration. -/
theorem exists_step_putProperty {config : PoolConfig} {step : Nat}
    (h : s.find name = .ok (.config config.loose (.ofConfig step)))
    (hopen : config.propertiesSealed = false) (hempty : config.properties = .empty)
    (key : String) (value : Value) (script : Script) :
    ∃ later, s.step (.putProperty name key value) script = (.ok .nothing, {}, later) ∧
      later.findConfig name = .ok { config.loose with properties := .mapping [(key, value)] } := by
  have hproperties : config.loose.properties = .mapping [] := by
    show Value.mapping (config.properties.entries.map _) = _
    rw [hempty]
    rfl
  have hput : config.loose.putProperty key value =
      .ok { config.loose with properties := .mapping [(key, value)] } :=
    LooseConfig.putProperty_eq_ok_iff.mpr ⟨hopen, [], hproperties, rfl⟩
  have hsession := putProperty_eq_ok_iff.mpr ⟨_, _, _, h, hput, rfl⟩
  have hshared : (Origins.ofConfig step).shared (.ofConfig step) "properties" = true := by
    rw [Origins.shared, Origins.get?_ofConfig]
    exact BEq.rfl
  refine ⟨_, step_eq_ok_iff.mpr ?_, findConfig_of_find (find_shareProperties_eq_ok_iff.mpr
    ⟨_, h, (congrArg (Entity.config · _) (if_pos hshared)).symm⟩)⟩
  show run (ofExcept (s.putProperty name key value) >>= _) script {} = _
  rw [hsession, run_bind_of_ok (run_ofExcept _ _ _)]
  rfl

/-- Whatever was done before a configuration was made, and whatever is done afterwards without giving
its name away, its fields refuse to be assigned to and stay as they are, the properties apart. It
never changes at all if its properties were given to it, or built, and only then: properties that were
left out take every entry. -/
theorem config_never_changes_iff_sealed {earlier : List (Command × Script)} {creation : Command}
    {script : Script} {answer : Answer} {world : World} {isSealed : Bool}
    (hmade : (({} : Session).after earlier).step creation script = (.ok answer, world, s))
    (hname : creation.configures? = some (name, isSealed)) :
    ∃ config : PoolConfig, s.findConfig name = .ok config.loose ∧
      (∀ commands : List (Command × Script),
        (∀ entry ∈ commands, entry.1.defines? ≠ some name) →
          (∃ properties, (s.after commands).findConfig name =
            .ok { config.loose with properties := properties }) ∧
          (s.after commands).RefusesAssignment name ∧
          (isSealed = true → (s.after commands).Guards name config)) ∧
      (isSealed = false → ∀ key value script, ∃ later,
        s.step (.putProperty name key value) script = (.ok .nothing, {}, later) ∧
          later.findConfig name =
            .ok { config.loose with properties := .mapping [(key, value)] }) := by
  obtain ⟨config, hsealed, hempty, hresult⟩ :=
    delivers_carryOut_of_configures hname _ _ _ _ _ (step_eq_ok_iff.mp hmade)
  obtain ⟨rfl, rfl⟩ := Prod.mk.inj hresult
  have hfind := find_define_self (({} : Session).after earlier) name
    (.config config.loose (.ofConfig (({} : Session).after earlier).next))
  have hkeeps : Keeps config.loose _ name _ :=
    ⟨(orderly_after earlier).define (.config config) name, config.loose.properties, hfind, fun _ => rfl⟩
  refine ⟨config, findConfig_of_find hfind, fun commands hcommands => ?_, fun hopen => ?_⟩
  · obtain ⟨-, properties, hlater, hsame⟩ :=
      after_induction hkeeps fun entry hentry _ _ h hs => h.keeps (hcommands entry hentry) hs
    refine ⟨⟨properties, findConfig_of_find hlater⟩, refusesAssignment_of_find hlater, fun hs => ?_⟩
    have hconfig : config.propertiesSealed = true := hsealed.trans hs
    rw [hsame hconfig] at hlater
    exact guards_of_find hlater hconfig
  · exact exists_step_putProperty hfind (hsealed.trans hopen) (hempty hopen)

/-- A configuration with the least of fields, and what else is given. -/
def plainCreation (others : List (String × Value)) : Command :=
  .model "c" ([("driver", .text "d"), ("root_url", .text "r"), ("connection_url", .text "c")] ++ others)

theorem config_with_properties_never_changes :
    ∃ s config,
      (({} : Session).after []).step
        (plainCreation [("properties", .mapping [("timeout", .text "5")])]) {} =
          (.ok .nothing, {}, s) ∧
      s.findConfig "c" = .ok config.loose ∧
      (s.after [(.assign "c" "pool_size", {}), (.putProperty "c" "timeout" (.text "1"), {}),
        (.copy "other" "c" [("properties", .mapping [])], {}),
        (.putProperty "other" "timeout" (.text "1"), {})]).Guards "c" config := by
  have hmade : ∃ s, (({} : Session).after []).step
      (plainCreation [("properties", .mapping [("timeout", .text "5")])]) {} =
        (.ok .nothing, {}, s) := ⟨_, rfl⟩
  obtain ⟨s, hs⟩ := hmade
  obtain ⟨config, hfind, hlater, -⟩ := config_never_changes_iff_sealed hs rfl
  exact ⟨s, config, hs, hfind, (hlater _ (by decide)).2.2 rfl⟩

theorem entry_enters_omitted_properties :
    ∃ s later,
      ({} : Session).step (plainCreation []) {} = (.ok .nothing, {}, s) ∧
      (s.findConfig "c" >>= LooseConfig.driverArguments) = .ok [] ∧
      s.step (.putProperty "c" "timeout" (.text "1")) {} = (.ok .nothing, {}, later) ∧
      (later.findConfig "c" >>= LooseConfig.driverArguments) = .ok [("timeout", .int 1)] :=
  ⟨_, _, rfl, rfl, rfl, rfl⟩

end Session

end SqlBackend
