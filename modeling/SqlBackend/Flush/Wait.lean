import SqlBackend.Fault
import SqlBackend.Numeric.Shortest

/-!
# How long to wait

A wait is a finite span of time that is not negative. It may be given as an integer, a floating-point
number or a truth value, and is handed to the clock as it was given.
-/

namespace SqlBackend.Flush

open SqlBackend.Numeric

/-- An accepted wait: as it was given, and the number of seconds that this is. -/
structure Wait where
  given : Value
  seconds : Binary64

/-- The number of seconds that a value is. -/
def secondsOf : Value → Except Fault Binary64
  | .bool b => .ok (.ofRatio false b.toNat 1)
  | .int i => Fault.waitBeyondRange.unlessSome (Binary64.ofInt? i)
  | .float x => .ok x
  | _ => .error .wrongType

/-- The wait that a value is, if it is one. -/
def Wait.ofValue (given : Value) : Except Fault Wait := do
  let seconds ← secondsOf given
  if seconds.isFinite && !seconds.isNegative then return ⟨given, seconds⟩
  else throw (.badWait given)

/-- The wait in seconds and tenths. -/
def Wait.text (wait : Wait) : String := wait.seconds.tenths

end SqlBackend.Flush
