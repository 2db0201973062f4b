import SqlBackend.Proofs.Pool.Build
import SqlBackend.Session.Command

/-!
# What a command does to a session

A command leaves the entities of a session alone, or gives one name to an entity, or puts an entry into
a table of properties that several configurations may share. `Session.Leads` lists these ways, and
`leads_step` says that there is no other. So what holds of a session and is kept in each of these ways
holds after any number of commands (`Session.after_induction`).

`Action.Delivers` says what the results of an action are like. It asks nothing of an action that fails,
since a command that fails leaves the session as it was.
-/

namespace SqlBackend

namespace Action

variable {α β : Type} {P : α → Prop} {Q : β → Prop}

/-- Whatever result the action ends with is such as `P` says. -/
def Delivers (P : α → Prop) (action : Action α) : Prop :=
  ∀ script world a later, run action script world = (.ok a, later) → P a

theorem delivers_pure {a : α} (h : P a) : Delivers P (pure a) := by
  intro script world b later hrun
  cases hrun
  exact h

theorem delivers_ofExcept (outcome : Except Fault α) :
    Delivers (fun a => outcome = .ok a) (ofExcept outcome) := by
  intro script world a later hrun
  cases hrun
  rfl

theorem Delivers.bind {action : Action α} {next : α → Action β} (h : Delivers P action)
    (hnext : ∀ a, P a → Delivers Q (next a)) : Delivers Q (action >>= next) := by
  intro script world b later hrun
  rcases hfirst : run action script world with ⟨outcome, middle⟩
  obtain ⟨a, rfl, hrest⟩ := (run_bind_eq_ok_iff hfirst).mp hrun
  exact hnext a (h script world a middle hfirst) script middle b later hrest

theorem delivers_bind (action : Action α) {next : α → Action β}
    (hnext : ∀ a, Delivers Q (next a)) : Delivers Q (action >>= next) :=
  Delivers.bind (P := fun _ => True) (fun _ _ _ _ _ => trivial) fun a _ => hnext a

end Action

open SqlBackend.Action

namespace LooseConfig

/-- An entry can be put into properties exactly when they are a table that is open. -/
theorem putProperty_eq_ok_iff {config changed : LooseConfig} {key : String} {value : Value} :
    config.putProperty key value = .ok changed ↔
      config.propertiesSealed = false ∧ ∃ entries, config.properties = .mapping entries ∧
        changed = { config with properties := .mapping (Table.putEntry key value entries) } := by
  rw [putProperty]
  cases config.properties with
  | mapping entries =>
      cases config.propertiesSealed with
      | true => simp
      | false => simp [eq_comm]
  | _ => simp

theorem putProperty_of_sealed {config : LooseConfig} (h : config.propertiesSealed = true)
    (key : String) (value : Value) : config.putProperty key value = .error .wrongType := by
  rw [putProperty, h]
  cases config.properties with
  | _ => rfl

/-- Replaced properties are open, and nothing else opens properties. -/
theorem propertiesSealed_update (config : LooseConfig) (changes : List (String × Value)) :
    (config.update changes).propertiesSealed =
      (config.propertiesSealed && !changes.any (·.1 == "properties")) := by
  induction changes generalizing config with
  | nil => simp [update]
  | cons change rest ih =>
      obtain ⟨field, value⟩ := change
      have hrest : (config.update ((field, value) :: rest)).propertiesSealed =
          ((config.replace field value).propertiesSealed && !rest.any (·.1 == "properties")) :=
        ih (config.replace field value)
      rw [hrest, List.any_cons]
      by_cases hfield : field = "properties"
      · subst hfield
        simp [replace]
      · have hreplace : (config.replace field value).propertiesSealed = config.propertiesSealed := by
          unfold replace
          split <;> first | rfl | exact absurd rfl hfield
        rw [hreplace, beq_eq_false_iff_ne.mpr hfield, Bool.false_or]

end LooseConfig

namespace Origins

theorem get?_ofConfig (step : Nat) : (ofConfig step).get? "properties" = some step := rfl

theorem get?_replace (origins : Origins) (changes : List (String × Value)) (step : Nat)
    (field : String) :
    (origins.replace changes step).get? field =
      if changes.any (·.1 == field) then some step else origins.get? field := by
  induction changes generalizing origins with
  | nil => rfl
  | cons change rest ih =>
      have hrest : (origins.replace (change :: rest) step).get? field =
          if rest.any (·.1 == field) then some step
          else (origins.put change.1 step).get? field := ih (origins.put change.1 step)
      rw [hrest, Table.get?_put, List.any_cons]
      by_cases hfield : change.1 = field
      · simp [hfield]
      · rw [if_neg hfield, beq_eq_false_iff_ne.mpr hfield, Bool.false_or]

end Origins

/-- The entity with the properties that others share with it, if it does share them. -/
def Entity.shareProperties (origins : Origins) (properties : Value) : Entity → Entity
  | .config other others =>
    .config
      (if origins.shared others "properties" then { other with properties := properties } else other)
      others
  | entity => entity

/-- The name that a command gives to an entity. -/
def Command.defines? : Command → Option String
  | .dialect name _ => some name
  | .settings name _ => some name
  | .copy name _ _ => some name
  | .config name _ _ _ => some name
  | .model name _ => some name
  | .flusherOfSettings name _ _ _ => some name
  | .flusherOfWait name _ _ => some name
  | _ => none

/-- The name that a command gives to a new configuration, and whether the properties are given to it,
or built, and not left out. -/
def Command.configures? : Command → Option (String × Bool)
  | .config name _ _ _ => some (name, true)
  | .model name fields => some (name, (fields.lookup "properties").isSome)
  | _ => none

namespace Session

variable {s later : Session} {command : Command} {name : String} {entity : Entity}

theorem find_eq_ok_iff : s.find name = .ok entity ↔ s.entities.get? name = some entity := by
  rw [find]
  cases s.entities.get? name with
  | none => simp [Fault.unlessSome]
  | some other => simp [Fault.unlessSome]

theorem find_define_self (s : Session) (name : String) (entity : Entity) :
    (s.define name entity).find name = .ok entity :=
  find_eq_ok_iff.mpr (Table.get?_put_self s.entities name entity)

theorem find_define_of_ne (s : Session) {name other : String} (entity : Entity)
    (h : other ≠ name) : (s.define other entity).find name = s.find name := by
  rw [find, find, define, Table.get?_put_of_ne s.entities entity h]

/-- The session in which all that share properties with a configuration have others. -/
def shareProperties (s : Session) (origins : Origins) (properties : Value) : Session :=
  { s with entities := s.entities.mapValues fun _ entity =>
      entity.shareProperties origins properties }

theorem find_shareProperties_eq_ok_iff {origins : Origins} {properties : Value} :
    (s.shareProperties origins properties).find name = .ok entity ↔
      ∃ before, s.find name = .ok before ∧ entity = before.shareProperties origins properties := by
  rw [find_eq_ok_iff, shareProperties, Table.get?_mapValues, Option.map_eq_some_iff]
  simp only [find_eq_ok_iff, eq_comm (a := entity)]

theorem putProperty_eq_ok_iff {key : String} {value : Value} :
    s.putProperty name key value = .ok later ↔
      ∃ config origins changed, s.find name = .ok (.config config origins) ∧
        config.putProperty key value = .ok changed ∧
          later = s.shareProperties origins changed.properties := by
  rw [putProperty]
  cases s.find name with
  | error fault =>
      show (Except.error fault : Except Fault Session) = .ok later ↔ _
      simp
  | ok entity =>
      cases entity with
      | config config origins =>
          show (config.putProperty key value >>= fun changed =>
            pure (s.shareProperties origins changed.properties)) = _ ↔ _
          cases hput : config.putProperty key value with
          | error fault =>
              show (Except.error fault : Except Fault Session) = .ok later ↔ _
              simp [hput]
          | ok changed =>
              show (Except.ok _ : Except Fault Session) = .ok later ↔ _
              simp [hput, eq_comm]
      | _ =>
          show (Except.error Fault.missingAttribute : Except Fault Session) = .ok later ↔ _
          simp

/-- What an entity that is defined is like: a configuration is new, or a copy of another one. -/
inductive Makes (s : Session) : Entity → Prop
  | dialect (d : Dialect) (description : Nat) : s.Makes (.dialect d description)
  | settings (settings : LooseSettings) (origins : Origins) : s.Makes (.settings settings origins)
  | flusher (flusher : Flusher) : s.Makes (.flusher flusher)
  | config (config : PoolConfig) : s.Makes (.config config.loose (.ofConfig s.next))
  | copy {source : String} {config : LooseConfig} {origins : Origins}
      (h : s.find source = .ok (.config config origins)) (changes : List (String × Value)) :
      s.Makes (.config (config.update changes) (origins.replace changes s.next))

/-- What a command may make of a session. -/
inductive Leads (s : Session) (command : Command) : Session → Prop
  | same : s.Leads command s
  | environment (environment : Environment) :
      s.Leads command { s with environment := environment }
  | define {name : String} {entity : Entity} (hname : command.defines? = some name)
      (hmade : s.Makes entity) : s.Leads command (s.define name entity)
  | put {name key : String} {value : Value} {later : Session}
      (h : s.putProperty name key value = .ok later) : s.Leads command later

theorem makes_of_copyOf {source : String} {changes : List (String × Value)} {before : Entity}
    (hfind : s.find source = .ok before) (h : s.copyOf changes before = .ok entity) :
    s.Makes entity := by
  cases before with
  | dialect d description =>
      cases h
      exact .dialect d description
  | settings settings origins =>
      cases h
      exact .settings _ _
  | config config origins =>
      cases h
      exact .copy hfind changes
  | flusher flusher => cases h

/-- A command that makes a configuration gives the name to it. -/
theorem delivers_carryOut_of_configures {isSealed : Bool}
    (h : command.configures? = some (name, isSealed)) (s : Session) :
    Delivers (fun result => ∃ config : PoolConfig, config.propertiesSealed = isSealed ∧
        (isSealed = false → config.properties = .empty) ∧
          result = (.nothing, s.define name (.config config.loose (.ofConfig s.next))))
      (s.carryOut command) := by
  cases command with
  | config _ dialect settings overrides =>
      cases h
      refine delivers_bind _ fun d => delivers_bind _ fun settings => ?_
      refine Delivers.bind (P := Pool.Built d settings overrides)
        (fun _ _ _ _ hrun => (Pool.run_buildConfig_eq_ok_iff.mp hrun).1) fun config hbuilt => ?_
      exact delivers_pure ⟨config, hbuilt.propertiesSealed, by simp, rfl⟩
  | model _ fields =>
      cases h
      refine (delivers_ofExcept (PoolConfig.ofFields fields)).bind fun config hconfig => ?_
      obtain ⟨hsealed, hempty⟩ := PoolConfig.propertiesSealed_of_ofFields hconfig
      exact delivers_pure ⟨config, hsealed, fun hopen => hempty (hsealed.trans hopen), rfl⟩
  | _ => cases h

theorem delivers_carryOut (s : Session) (command : Command) :
    Delivers (fun result => s.Leads command result.2) (s.carryOut command) := by
  cases command with
  | environment changes => exact delivers_pure (.environment _)
  | dialect name source =>
      exact delivers_bind _ fun d => delivers_pure (.define rfl (.dialect d s.next))
  | settings name arguments =>
      exact delivers_bind _ fun _ => delivers_pure (.define rfl (.settings _ _))
  | copy name source changes =>
      refine (delivers_ofExcept (s.find source)).bind fun before hfind => ?_
      refine (delivers_ofExcept (s.copyOf changes before)).bind fun entity hcopy => ?_
      exact delivers_pure (.define rfl (makes_of_copyOf hfind hcopy))
  | config name dialect settings overrides =>
      refine delivers_bind _ fun _ => delivers_bind _ fun _ => ?_
      exact delivers_bind _ fun config => delivers_pure (.define rfl (.config config))
  | model name fields =>
      exact delivers_bind _ fun config => delivers_pure (.define rfl (.config config))
  | flusherOfSettings name dialect settings overrides =>
      refine delivers_bind _ fun _ => delivers_bind _ fun _ => ?_
      exact delivers_bind _ fun flusher => delivers_pure (.define rfl (.flusher flusher))
  | flusherOfWait name dialect wait =>
      refine delivers_bind _ fun _ => ?_
      exact delivers_bind _ fun flusher => delivers_pure (.define rfl (.flusher flusher))
  | putProperty name key value =>
      refine (delivers_ofExcept (s.putProperty name key value)).bind fun later h => ?_
      exact delivers_pure (.put h)
  -- the other commands only ask the session, and give it back as it is
  | view name =>
      exact delivers_bind _ fun _ => delivers_bind _ fun _ => delivers_pure .same
  | assign name field =>
      exact delivers_bind _ fun _ => delivers_bind _ fun _ => delivers_pure .same
  | changeArgument name key value =>
      exact delivers_bind _ fun _ => delivers_bind _ fun _ => delivers_pure .same
  | equal a b =>
      exact delivers_bind _ fun _ => delivers_bind _ fun _ => delivers_pure .same
  | connect dialect config =>
      refine delivers_bind _ fun _ => delivers_bind _ fun _ => ?_
      exact delivers_bind _ fun _ => delivers_pure .same
  | streamingCursor dialect settings =>
      refine delivers_bind _ fun _ => delivers_bind _ fun _ => ?_
      exact delivers_bind _ fun _ => delivers_pure .same
  | databaseExists dialect name =>
      exact delivers_bind _ fun _ => delivers_bind _ fun _ => delivers_pure .same
  | classify dialect error =>
      exact delivers_bind _ fun _ => delivers_bind _ fun _ => delivers_pure .same
  | rootUrl dialect settings =>
      refine delivers_bind _ fun _ => delivers_bind _ fun _ => ?_
      exact delivers_bind _ fun _ => delivers_pure .same
  | flush name =>
      refine delivers_bind _ fun _ => delivers_bind _ fun _ => ?_
      exact delivers_bind _ fun _ => delivers_bind _ fun _ => delivers_pure .same

/-- A command succeeds as its action does, and what the action makes of the session is kept. -/
theorem step_eq_ok_iff {script : Script} {answer : Answer} {world : World} :
    s.step command script = (.ok answer, world, later) ↔
      run (s.carryOut command) script {} = (.ok (answer, later), world) := by
  rw [step]
  rcases run (s.carryOut command) script {} with ⟨outcome, world'⟩
  cases outcome with
  | error fault => simp
  | ok result => simp [Prod.ext_iff, and_assoc, and_comm]

theorem leads_step (s : Session) (command : Command) (script : Script) :
    s.Leads command (s.step command script).2.2 := by
  rcases hrun : run (s.carryOut command) script {} with ⟨outcome, world⟩
  cases outcome with
  | error fault =>
      rw [step_of_error hrun]
      exact .same
  | ok result =>
      obtain ⟨answer, later⟩ := result
      rw [step_eq_ok_iff.mpr hrun]
      exact delivers_carryOut s command script {} _ _ hrun

/-- The session after commands, one after the other, each with its own script. -/
def after (s : Session) (commands : List (Command × Script)) : Session :=
  commands.foldl (fun s entry => (s.step entry.1 entry.2).2.2) s

theorem after_cons (s : Session) (entry : Command × Script) (rest : List (Command × Script)) :
    s.after (entry :: rest) = (s.step entry.1 entry.2).2.2.after rest := rfl

theorem after_induction {P : Session → Prop} {commands : List (Command × Script)} (h : P s)
    (hstep : ∀ entry ∈ commands, ∀ before later : Session,
      before.Leads entry.1 later → P before → P later) : P (s.after commands) := by
  induction commands generalizing s with
  | nil => exact h
  | cons entry rest ih =>
      rw [after_cons]
      apply ih
      · exact hstep entry List.mem_cons_self s _ (leads_step s entry.1 entry.2) h
      · exact fun other hother => hstep other (List.mem_cons_of_mem entry hother)

end Session

end SqlBackend
