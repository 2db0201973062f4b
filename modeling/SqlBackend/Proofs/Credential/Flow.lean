import SqlBackend.Proofs.Credential.Redacted
import SqlBackend.Proofs.Flush.Handover
import SqlBackend.Proofs.Pool.Validated

/-!
# Where credentials go

Credentials enter a configuration as properties, become arguments of one call, and go nowhere else.
From two configurations that are the same when redacted, targets are worked out that are the same when
redacted (`map_redacted_target`). After that one call holds the credentials, and what follows does not
depend on the target at all: `alike_opening` and `alike_ownFlush`.
-/

namespace SqlBackend

namespace Action

variable {α β γ : Type}

theorem run_map (f : α → β) (action : Action α) (script : Script) (world : World) :
    run (f <$> action) script world =
      ((run action script world).1.map f, (run action script world).2) := by
  show run (action >>= fun a => pure (f a)) script world = _
  rw [run_bind]
  rcases run action script world with ⟨outcome, later⟩
  cases outcome with
  | ok a => rfl
  | error fault => rfl

theorem map_ofExcept_bind_pure (f : β → γ) (g : α → β) (outcome : Except Fault α) :
    f <$> (ofExcept outcome >>= fun a => pure (g a)) = ofExcept (outcome.map fun a => f (g a)) := by
  funext script world
  cases outcome with
  | ok a => rfl
  | error fault => rfl

theorem map_bind_congr {f : β → γ} {action : Action α} {left right : α → Action β}
    (h : ∀ a, f <$> left a = f <$> right a) : f <$> (action >>= left) = f <$> (action >>= right) := by
  rw [map_bind, map_bind]
  exact bind_congr h

/-- Actions that show no difference but in the values of credentials. -/
def Alike (left right : Action α) : Prop :=
  ∀ script world, (run left script world).1 = (run right script world).1 ∧
    (run left script world).2.redacted = (run right script world).2.redacted

/-- Actions that go on from the same world, and from results that differ where nothing shows, are
alike. -/
theorem Alike.bind_of_map_eq {left right : Action α} {f : α → β} (h : f <$> left = f <$> right)
    {next others : α → Action γ} (hnext : ∀ a b, f a = f b → Alike (next a) (others b)) :
    Alike (left >>= next) (right >>= others) := by
  intro script world
  have hrun : run (f <$> left) script world = run (f <$> right) script world := by
    rw [h]
  rw [run_map, run_map] at hrun
  rcases hleft : run left script world with ⟨outcome, later⟩
  rcases hright : run right script world with ⟨outcome', later'⟩
  rw [hleft, hright] at hrun
  obtain ⟨houtcome, rfl⟩ := Prod.mk.inj hrun
  cases outcome with
  | error fault =>
      cases outcome' with
      | ok b => cases houtcome
      | error fault' =>
          cases houtcome
          rw [run_bind_of_error hleft, run_bind_of_error hright]
          exact ⟨rfl, rfl⟩
  | ok a =>
      cases outcome' with
      | error fault' => cases houtcome
      | ok b =>
          rw [run_bind_of_ok hleft, run_bind_of_ok hright]
          exact hnext a b (Except.ok.inj houtcome) script later

theorem Alike.bind_congr {action : Action α} {next others : α → Action β}
    (hnext : ∀ a, Alike (next a) (others a)) : Alike (action >>= next) (action >>= others) := by
  apply Alike.bind_of_map_eq (rfl : id <$> action = id <$> action)
  rintro a b ⟨⟩
  exact hnext a

end Action

open SqlBackend.Action SqlBackend.Pool

namespace Connection

variable {c e : PoolConfig}

theorem connectionUrl_congr (h : c.redacted = e.redacted) :
    c.loose.connectionUrl = e.loose.connectionUrl := by
  have hurl : c.redacted.connectionUrl = e.redacted.connectionUrl := by
    rw [h]
  exact congrArg Value.text hurl

/-- Arguments that are joined and then handed on are the same when redacted. -/
theorem map_redacted_joined (h : c.redacted = e.redacted) {make : Arguments → Target}
    (hmake : ∀ arguments, (make arguments).redacted = make (redactArguments arguments))
    (own : Arguments) :
    Target.redacted <$> (ofExcept c.loose.driverArguments >>= fun properties =>
        ofExcept (joinArguments own properties) >>= fun arguments => pure (make arguments)) =
      Target.redacted <$> (ofExcept e.loose.driverArguments >>= fun properties =>
        ofExcept (joinArguments own properties) >>= fun arguments => pure (make arguments)) := by
  have hjoin (outcome : Except Fault Arguments) :
      (outcome.map fun arguments => (make arguments).redacted) =
        (outcome.map redactArguments).map make := by
    cases outcome with
    | ok arguments => exact congrArg Except.ok (hmake arguments)
    | error fault => rfl
  rw [c.driverArguments_loose, e.driverArguments_loose]
  show Target.redacted <$> (ofExcept (joinArguments own c.arguments) >>= _) =
    Target.redacted <$> (ofExcept (joinArguments own e.arguments) >>= _)
  rw [map_ofExcept_bind_pure, map_ofExcept_bind_pure, hjoin, hjoin,
    map_redact_joinArguments (redactArguments_congr h)]

theorem map_redacted_mysqlTarget (h : c.redacted = e.redacted) :
    Target.redacted <$> mysqlTarget c.loose = Target.redacted <$> mysqlTarget e.loose := by
  rw [mysqlTarget, mysqlTarget, connectionUrl_congr h]
  refine map_bind_congr fun _ => map_bind_congr fun _ => map_bind_congr fun _ =>
    map_bind_congr fun _ => ?_
  exact map_redacted_joined h (fun _ => rfl) _

theorem map_redacted_oracleTarget (h : c.redacted = e.redacted) :
    Target.redacted <$> oracleTarget c.loose = Target.redacted <$> oracleTarget e.loose := by
  rw [oracleTarget, oracleTarget, connectionUrl_congr h]
  refine map_bind_congr fun _ => map_bind_congr fun _ => map_bind_congr fun _ =>
    map_bind_congr fun _ => ?_
  exact map_redacted_joined h (fun _ => rfl) _

/-- A file gets the arguments without the credentials, and redacted they are the same. -/
theorem map_redacted_sqliteTarget (h : c.redacted = e.redacted) :
    Target.redacted <$> sqliteTarget c.loose = Target.redacted <$> sqliteTarget e.loose := by
  have hoptions : redactArguments (c.arguments.filter fun argument => !isCredential argument.1) =
      redactArguments (e.arguments.filter fun argument => !isCredential argument.1) := by
    rw [redactArguments_filter, redactArguments_congr h, redactArguments_filter]
  have hjoin (target : Target) (outcome : Except Fault Arguments) :
      (outcome.map fun _ => target) = (outcome.map redactArguments).map fun _ => target := by
    cases outcome with
    | ok arguments => rfl
    | error fault => rfl
  rw [sqliteTarget, sqliteTarget, connectionUrl_congr h]
  refine map_bind_congr fun _ => map_bind_congr fun address => map_bind_congr fun _ => ?_
  rw [c.driverArguments_loose, e.driverArguments_loose]
  show Target.redacted <$> (ofExcept (joinArguments _ _) >>= fun _ => pure _) =
    Target.redacted <$> (ofExcept (joinArguments _ _) >>= fun _ => pure _)
  rw [map_ofExcept_bind_pure, map_ofExcept_bind_pure]
  simp only [Target.redacted, hoptions]
  rw [hjoin, map_redact_joinArguments hoptions, ← hjoin]

end Connection

namespace Engine

open SqlBackend.Connection

theorem map_redacted_target (engine : Engine) {c e : PoolConfig} (h : c.redacted = e.redacted) :
    Target.redacted <$> engine.target c.loose = Target.redacted <$> engine.target e.loose := by
  cases engine with
  | mysql => exact map_redacted_mysqlTarget h
  | oracle => exact map_redacted_oracleTarget h
  | sqlite => exact map_redacted_sqliteTarget h

end Engine

namespace Flush

/-- The target is what one call is made with, and the others are the same. -/
theorem map_redacted_openingCalls (engine : Engine) (script : Script) {target other : Target}
    (h : target.redacted = other.redacted) :
    (openingCalls engine script target).map Call.redacted =
      (openingCalls engine script other).map Call.redacted := by
  rw [openingCalls, openingCalls, List.map_cons, List.map_cons]
  exact congrArg (Call.connect · :: _) h

theorem alike_opening (engine : Engine) {target other : Target}
    (h : target.redacted = other.redacted) :
    Alike (engine.opening target) (engine.opening other) := by
  intro script world
  rw [engine.run_opening, engine.run_opening]
  refine ⟨rfl, ?_⟩
  rw [World.redacted_extend, World.redacted_extend, map_redacted_openingCalls engine script h]

theorem alike_ownFlush (engine : Engine) (statements : List String) {target other : Target}
    (h : target.redacted = other.redacted) :
    Alike (ownFlush engine statements target) (ownFlush engine statements other) := by
  intro script world
  rw [run_ownFlush, run_ownFlush]
  refine ⟨rfl, ?_⟩
  rw [World.redacted_extend, World.redacted_extend, ownCalls, ownCalls, List.map_append,
    List.map_append, map_redacted_openingCalls engine script h]

end Flush

namespace Dialect

theorem alike_connect {d : Dialect} {engine : Engine} (hengine : d.engine = some engine)
    {c e : PoolConfig} (h : c.redacted = e.redacted) :
    Alike (d.connect c.loose) (d.connect e.loose) := by
  rw [d.connect_eq hengine, d.connect_eq hengine]
  exact Alike.bind_of_map_eq (engine.map_redacted_target h) fun _ _ => Flush.alike_opening engine

end Dialect

namespace Flusher

open SqlBackend.Flush

/-- A flush shows no more than its attempt. -/
theorem alike_flush {f g : Flusher} (hdialect : f.dialect = g.dialect) (hwait : f.wait = g.wait)
    (h : Alike f.attempt g.attempt) : Alike f.flush g.flush := by
  intro script world
  obtain ⟨houtcome, hworld⟩ := h script { world with locked := true }
  rcases hf : run f.attempt script { world with locked := true } with ⟨outcome, later⟩
  rcases hg : run g.attempt script { world with locked := true } with ⟨outcome', later'⟩
  rw [hf, hg] at houtcome hworld
  obtain rfl : outcome = outcome' := houtcome
  change later.redacted = later'.redacted at hworld
  -- what is done last is the same in both, and keeps worlds the same when redacted
  have hlater (calls : List Call) (records : List Record) :
      { later.extend calls records with locked := false }.redacted =
        { later'.extend calls records with locked := false }.redacted := by
    have hextend : (later.extend calls records).redacted =
        (later'.extend calls records).redacted := by
      rw [World.redacted_extend, World.redacted_extend, hworld]
    exact congrArg (fun w : World => { w with locked := false }) hextend
  cases outcome with
  | ok _ =>
      rw [run_flush_of_ok hf, run_flush_of_ok hg, hdialect]
      exact ⟨rfl, hlater [] _⟩
  | error fault =>
      cases hi : fault.isInterrupt with
      | true =>
          rw [run_flush_of_interrupt hf hi, run_flush_of_interrupt hg hi]
          exact ⟨rfl, congrArg (fun w : World => { w with locked := false }) hworld⟩
      | false =>
          rw [run_flush_of_error hf hi, run_flush_of_error hg hi, hdialect, hwait]
          exact ⟨rfl, hlater _ _⟩

theorem alike_flush_configured {d : Dialect} {engine : Engine} (hengine : d.engine = some engine)
    {c e : PoolConfig} (h : c.redacted = e.redacted) (wait : Wait) :
    Alike (flush ⟨d, .configured c, wait⟩) (flush ⟨d, .configured e, wait⟩) := by
  have hattempt : Alike (attempt ⟨d, .configured c, wait⟩) (attempt ⟨d, .configured e, wait⟩) := by
    rw [attempt_eq hengine, attempt_eq hengine]
    exact Alike.bind_of_map_eq (engine.map_redacted_target h) fun _ _ =>
      alike_ownFlush engine d.flushStatements
  exact alike_flush rfl rfl hattempt

end Flusher

end SqlBackend
