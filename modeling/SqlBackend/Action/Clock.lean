import SqlBackend.Value

/-!
# Clocks

Waiting is left to a clock, which may refuse a wait; `Clock` says which ones, and with what text. The
clock of the platform, `Clock.nanoseconds`, counts in 64 bits with a sign, so it cannot hold a wait of
about 292 years. A clock without such a bound is `Clock.endless`.
-/

namespace SqlBackend

open SqlBackend.Numeric

/-- What a clock answers to a span of time in seconds: the text of its refusal, if it refuses. -/
abbrev Clock := Value → Option String

namespace Clock

/-- The clock that takes every wait. -/
def endless : Clock := fun _ => none

/-- The first number of nanoseconds that does not fit in 64 bits with a sign. -/
def counterBound : Nat := 0x8000000000000000

def nanosecondsInSecond : Nat := 1000000000

/-- Whether `mantissa * 2 ^ exponent` seconds are too many. Their nanoseconds are rounded to 53 binary
digits first, and the greatest such number below the bound is 1024 less, so the upper half of what
lies between is rounded up to the bound. -/
def isBeyondCounter (mantissa : Nat) (exponent : Int) : Bool :=
  let (num, den) := Binary64.ratio mantissa exponent
  (counterBound - 512) * den ≤ num * nanosecondsInSecond

/-- The clock of the platform. -/
def nanoseconds : Clock
  | .int i =>
    if counterBound ≤ i.natAbs * nanosecondsInSecond then
      some "timestamp too large to convert to C _PyTime_t"
    else none
  | .float (.finite _ mantissa exponent) =>
    if isBeyondCounter mantissa exponent then some "timestamp out of range for platform time_t"
    else none
  | .float (.infinite _) => some "timestamp out of range for platform time_t"
  | .float .nan => some "Invalid value NaN (not a number)"
  | _ => none

end Clock

end SqlBackend
