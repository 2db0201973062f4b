import SqlBackend.Action.Basic

/-!
# Cleaning up

What was opened is closed and what was locked is freed, however the work in between ends. A fault
while cleaning up takes the place of what the work ended with. `guarded` holds back every fault but an
interrupt, which always goes through.
-/

namespace SqlBackend.Action

variable {α : Type}

/-- Runs `last` after `work`, however that ends. -/
def thenAlways (work : Action α) (last : Action Unit) : Action α := fun script world =>
  match work script world with
  | (outcome, world) =>
    match last script world with
    | (.ok (), world) => (outcome, world)
    | (.error fault, world) => (.error fault, world)

/-- The outcome of an action as a result, unless an interrupt ended it. -/
def guarded (work : Action α) : Action (Except Fault α) := fun script world =>
  match work script world with
  | (.ok a, world) => (.ok (.ok a), world)
  | (.error fault, world) =>
    (if fault.isInterrupt then .error fault else .ok (.error fault), world)

/-- Runs `work` with a cursor, which is closed afterwards if it was obtained. -/
def withCursor (work : Action α) : Action α := do
  cursor
  work.thenAlways closeCursor

/-- Holds the flush lock while `work` runs. -/
def holdingLock (work : Action α) : Action α := fun script world =>
  match work script { world with locked := true } with
  | (outcome, world) => (outcome, { world with locked := false })

theorem run_thenAlways (work : Action α) (last : Action Unit) (script : Script) (world : World) :
    run (thenAlways work last) script world =
      match run work script world with
      | (outcome, world) =>
        match run last script world with
        | (.ok (), world) => (outcome, world)
        | (.error fault, world) => (.error fault, world) := rfl

theorem run_guarded_of_ok {work : Action α} {script : Script} {world later : World} {a : α}
    (h : run work script world = (.ok a, later)) :
    run (guarded work) script world = (.ok (.ok a), later) := by
  simp only [run] at h
  simp [run, guarded, h]

theorem run_guarded_of_error {work : Action α} {script : Script} {world later : World}
    {fault : Fault} (h : run work script world = (.error fault, later))
    (ordinary : fault.isInterrupt = false) :
    run (guarded work) script world = (.ok (.error fault), later) := by
  simp only [run] at h
  simp [run, guarded, h, ordinary]

/-- An interrupt goes through. -/
theorem run_guarded_of_interrupt {work : Action α} {script : Script} {world later : World}
    {fault : Fault} (h : run work script world = (.error fault, later))
    (interrupt : fault.isInterrupt = true) :
    run (guarded work) script world = (.error fault, later) := by
  simp only [run] at h
  simp [run, guarded, h, interrupt]

theorem run_holdingLock (work : Action α) (script : Script) (world : World) :
    run (holdingLock work) script world =
      match run work script { world with locked := true } with
      | (outcome, world) => (outcome, { world with locked := false }) := rfl

/-- The lock is free after it was held, whatever happened in between. -/
@[simp] theorem locked_holdingLock (work : Action α) (script : Script) (world : World) :
    (run (holdingLock work) script world).2.locked = false := rfl

end SqlBackend.Action
