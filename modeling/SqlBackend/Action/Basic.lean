import SqlBackend.Action.Call
import SqlBackend.Action.Clock

/-!
# Actions

An `Action` is an operation on a backend. It runs against a `Script`, which says how the driver
answers each call, and turns the `World` before into the world after: the calls made so far, the
records written, and whether the flush lock is held. It ends with a result or with a fault, and in
both cases with a world, so nothing that was done is lost when an operation fails.
-/

namespace SqlBackend

/-- How a driver answers: the failure of each kind of call, the failures of the statements one after
the other, the row that is fetched, and whether the driver is installed at all. The clock answers the
waits. -/
structure Script where
  connect : Option DriverError := none
  cursor : Option DriverError := none
  execute : List (Option DriverError) := []
  fetchRow : Option DriverError := none
  closeCursor : Option DriverError := none
  commit : Option DriverError := none
  close : Option DriverError := none
  row : Value := .list [.int 1]
  driverMissing : Bool := false
  clock : Clock := .endless
  deriving Inhabited

/-- The error of a wait that the clock refuses. It is no interrupt. -/
def Script.refusal (script : Script) (seconds : Value) : Option DriverError :=
  (script.clock seconds).map fun text => ⟨.ordinary, "clock", [.text text], []⟩

/-- What has been done so far. -/
structure World where
  calls : List Call := []
  records : List Record := []
  locked : Bool := false
  deriving Inhabited

namespace World

/-- The number of statements that were run. -/
def executed (w : World) : Nat := w.calls.countP Call.isExecute

def call (w : World) (c : Call) : World := { w with calls := w.calls ++ [c] }

def record (w : World) (r : Record) : World := { w with records := w.records ++ [r] }

end World

/-- An operation on a backend. -/
def Action (α : Type) : Type := Script → World → Except Fault α × World

namespace Action

variable {α β : Type}

/-- What an action ends with, against a script and from a world. -/
def run (action : Action α) (script : Script) (world : World) : Except Fault α × World :=
  action script world

def done (a : α) : Action α := fun _ world => (.ok a, world)

def fail (fault : Fault) : Action α := fun _ world => (.error fault, world)

/-- Goes on with the result of an action, unless it failed. -/
def andThen (action : Action α) (next : α → Action β) : Action β := fun script world =>
  match action script world with
  | (.ok a, world) => next a script world
  | (.error fault, world) => (.error fault, world)

instance : Monad Action where
  pure := done
  bind := andThen

/-- Ends as a pure computation does. -/
def ofExcept (outcome : Except Fault α) : Action α := fun _ world => (outcome, world)

instance : MonadLift (Except Fault) Action where
  monadLift := ofExcept

@[simp] theorem run_pure (a : α) (script : Script) (world : World) :
    run (pure a) script world = (.ok a, world) := rfl

@[simp] theorem run_ofExcept (outcome : Except Fault α) (script : Script) (world : World) :
    run (ofExcept outcome) script world = (outcome, world) := rfl

theorem run_bind (action : Action α) (next : α → Action β) (script : Script) (world : World) :
    run (action >>= next) script world =
      match run action script world with
      | (.ok a, world) => run (next a) script world
      | (.error fault, world) => (.error fault, world) := rfl

theorem run_bind_of_ok {action : Action α} {next : α → Action β} {script : Script}
    {world later : World} {a : α} (h : run action script world = (.ok a, later)) :
    run (action >>= next) script world = run (next a) script later := by
  rw [run_bind, h]

theorem run_bind_of_error {action : Action α} {next : α → Action β} {script : Script}
    {world later : World} {fault : Fault} (h : run action script world = (.error fault, later)) :
    run (action >>= next) script world = (.error fault, later) := by
  rw [run_bind, h]

/-- A sequence ends with a result exactly when its first step does and what follows does. -/
theorem run_bind_eq_ok_iff {action : Action α} {next : α → Action β} {script : Script}
    {world middle last : World} {outcome : Except Fault α} {b : β}
    (h : run action script world = (outcome, middle)) :
    run (action >>= next) script world = (.ok b, last) ↔
      ∃ a, outcome = .ok a ∧ run (next a) script middle = (.ok b, last) := by
  rw [run_bind, h]
  constructor
  · intro hrun
    cases outcome with
    | error fault => cases hrun
    | ok a => exact ⟨a, rfl, hrun⟩
  · rintro ⟨a, rfl, hrun⟩
    exact hrun

theorem id_map_eq (action : Action α) : id <$> action = action := by
  funext script world
  show andThen action done script world = action script world
  unfold andThen
  rcases action script world with ⟨_ | _, _⟩ <;> rfl

theorem bind_bind_eq {γ : Type} (action : Action α) (f : α → Action β) (g : β → Action γ) :
    action >>= f >>= g = action >>= fun a => f a >>= g := by
  funext script world
  show andThen (andThen action f) g script world =
    andThen action (fun a => andThen (f a) g) script world
  unfold andThen
  rcases action script world with ⟨_ | _, _⟩ <;> rfl

instance : LawfulMonad Action :=
  LawfulMonad.mk' Action id_map_eq (fun _ _ => rfl) bind_bind_eq

def script : Action Script := fun script world => (.ok script, world)

def world : Action World := fun _ world => (.ok world, world)

def log (record : Record) : Action Unit := fun _ world => (.ok (), world.record record)

/-- Makes a call, which ends as the driver answers; the call is made also when it fails. -/
def call (c : Call) (failure : Script → World → Option DriverError) : Action Unit :=
  fun script world =>
    (match failure script world with
      | none => .ok ()
      | some error => .error (.raised error), world.call c)

theorem run_call_of_none {c : Call} {failure : Script → World → Option DriverError}
    {script : Script} {world : World} (h : failure script world = none) :
    run (call c failure) script world = (.ok (), world.call c) := by
  simp [run, call, h]

theorem run_call_of_some {c : Call} {failure : Script → World → Option DriverError}
    {script : Script} {world : World} {error : DriverError}
    (h : failure script world = some error) :
    run (call c failure) script world = (.error (.raised error), world.call c) := by
  simp [run, call, h]

@[simp] theorem run_log (record : Record) (script : Script) (world : World) :
    run (log record) script world = (.ok (), world.record record) := rfl

/-- A call that cannot fail. -/
def perform (c : Call) : Action Unit := call c fun _ _ => none

def connect (target : Target) : Action Unit := call (.connect target) fun script _ => script.connect

def cursor : Action Unit := call .cursor fun script _ => script.cursor

/-- Obtains a cursor that leaves the rows on the server. -/
def serverCursor : Action Unit := call .serverCursor fun script _ => script.cursor

/-- The failure of the statement that comes next. -/
def nextFailure (script : Script) (world : World) : Option DriverError :=
  (script.execute[world.executed]?).join

def execute (statement : String) : Action Unit := call (.execute statement) nextFailure

def executeWith (statement : String) (parameters : List Value) : Action Unit :=
  call (.executeWith statement parameters) nextFailure

def fetchRow : Action Value := do
  call .fetchRow fun script _ => script.fetchRow
  return (← script).row

def closeCursor : Action Unit := call .closeCursor fun script _ => script.closeCursor

def commit : Action Unit := call .commit fun script _ => script.commit

def close : Action Unit := call .close fun script _ => script.close

/-- Sets a number on the cursor. -/
def assign (name : String) (value : Nat) : Action Unit := perform (.assign name value)

def sleep (seconds : Value) : Action Unit :=
  call (.sleep seconds) fun script _ => script.refusal seconds

/-- Goes on only if the driver is installed. -/
def requireDriver : Action Unit := do
  if (← script).driverMissing then fail .driverMissing

end Action

end SqlBackend
