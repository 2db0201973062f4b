/-!
# Binary floating-point numbers

`Binary64` holds the numbers of the 64-bit binary format exactly: a finite one is a sign, a mantissa
and an exponent of two, on the grid that the format prescribes. Zero keeps its sign. `ofRatio` rounds
a quotient to the nearest such number, a tie going to the even mantissa, and everything else that
produces a number goes through it.
-/

namespace SqlBackend.Numeric

/-- A number of the 64-bit binary format; a finite one is `± mantissa * 2 ^ exponent`. -/
inductive Binary64 where
  | nan
  | infinite (negative : Bool)
  | finite (negative : Bool) (mantissa : Nat) (exponent : Int)
  deriving DecidableEq, Repr, Inhabited

/-- The quotient `num / den`, rounded to the nearest natural number; a half goes to the even one. -/
def roundHalfEven (num den : Nat) : Nat :=
  let q := num / den
  let r := num % den
  if 2 * r < den then q
  else if den < 2 * r then q + 1
  else if q % 2 = 0 then q else q + 1

/-- The quotient `num / den` divided by `base ^ exponent`, as a quotient of natural numbers. -/
def scaleDown (base num den : Nat) (exponent : Int) : Nat × Nat :=
  if 0 ≤ exponent then (num, den * Nat.pow base exponent.toNat)
  else (num * Nat.pow base (-exponent).toNat, den)

namespace Binary64

/-- The least exponent, that of the subnormal numbers. -/
def minExponent : Int := -1074

/-- The greatest exponent of a finite number. -/
def maxExponent : Int := 971

/-- The least mantissa of 53 binary digits. -/
def hiddenBit : Nat := 0x10000000000000

/-- Zero with a sign. -/
def zero (negative : Bool) : Binary64 := .finite negative 0 minExponent

/-- The exponent at which `num / den` has a mantissa of 53 binary digits, or the least one. -/
def gridExponent (num den : Nat) : Int :=
  let guess : Int := num.log2 - den.log2 - 52
  let scaled := scaleDown 2 num den guess
  max minExponent (if scaled.1 < scaled.2 * hiddenBit then guess - 1 else guess)

/-- The number nearest to `num / den`, with the given sign. -/
def ofRatio (negative : Bool) (num den : Nat) : Binary64 :=
  if num = 0 then zero negative else
  let e := gridExponent num den
  let scaled := scaleDown 2 num den e
  let m := roundHalfEven scaled.1 scaled.2
  let (m, e) := if m = 2 * hiddenBit then (hiddenBit, e + 1) else (m, e)
  if maxExponent < e then .infinite negative else .finite negative m e

/-- The finite number nearest to an integer; `none` if the integer is beyond the format's range. -/
def ofInt? (i : Int) : Option Binary64 :=
  match ofRatio (i < 0) i.natAbs 1 with
  | .infinite _ => none
  | x => some x

/-- The number nearest to `± digits * 10 ^ exponent`. -/
def ofDecimal (negative : Bool) (digits : Nat) (exponent : Int) : Binary64 :=
  let magnitude : Int := (Nat.toDigits 10 digits).length + exponent
  if digits = 0 ∨ magnitude < -330 then zero negative
  else if 310 < magnitude then .infinite negative
  else
    let ratio := scaleDown 10 digits 1 (-exponent)
    ofRatio negative ratio.1 ratio.2

def isFinite : Binary64 → Bool
  | .finite .. => true
  | _ => false

/-- Less than zero; not so for a number that is none and for either zero. -/
def isNegative : Binary64 → Bool
  | .nan => false
  | .infinite negative => negative
  | .finite negative mantissa _ => negative && mantissa != 0

/-- Greater than zero. -/
def isPositive : Binary64 → Bool
  | .nan => false
  | .infinite negative => !negative
  | .finite negative mantissa _ => !negative && mantissa != 0

def isZero : Binary64 → Bool
  | .finite _ mantissa _ => mantissa == 0
  | _ => false

/-- The magnitude of a finite number as a quotient. -/
def ratio (mantissa : Nat) (exponent : Int) : Nat × Nat :=
  scaleDown 2 mantissa 1 (-exponent)

/-- The integer that a finite number without fraction is. -/
def toInt? : Binary64 → Option Int
  | .finite negative mantissa exponent =>
    let (num, den) := ratio mantissa exponent
    if num % den = 0 then some (if negative then -(num / den : Nat) else (num / den : Nat))
    else none
  | _ => none

/-- A finite number with its fraction cut off. -/
def truncate? : Binary64 → Option Int
  | .finite negative mantissa exponent =>
    let (num, den) := ratio mantissa exponent
    some (if negative then -(num / den : Nat) else (num / den : Nat))
  | _ => none

/-- Equality of numbers: the two zeros are equal, and what is no number equals nothing. -/
def same : Binary64 → Binary64 → Bool
  | .nan, _ => false
  | _, .nan => false
  | x, y => (x.isZero && y.isZero) || x == y

end Binary64

end SqlBackend.Numeric
