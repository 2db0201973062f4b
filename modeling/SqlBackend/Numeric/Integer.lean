import SqlBackend.Text.Blank
import SqlBackend.Text.Digit

/-!
# Integer numerals

`decimal` writes an integer in base ten, and `decimal?` does so for a text that is handed on: a numeral
of more than `maxDigits` digits is not written there. `integer?` reads one: white space around it, one
sign, and decimal digits of any script with at most one underscore between two of them. A numeral of
more than `maxDigits` digits, leading zeros counted, is refused.
-/

namespace SqlBackend.Numeric

open SqlBackend.Text

/-- The number of digits that a numeral may have. -/
def maxDigits : Nat := 4300

/-- An integer in base ten. -/
def decimal : Int → String
  | .ofNat n => n.repr
  | .negSucc n => "-" ++ (n + 1).repr

/-- An integer in base ten, if it has no more than `maxDigits` digits. -/
def decimal? (i : Int) : Option String :=
  if i.natAbs.repr.length ≤ maxDigits then some (decimal i) else none

/-- Splits off one sign; the flag tells that it is a minus. -/
def splitSign : List Char → Bool × List Char
  | '-' :: rest => (true, rest)
  | '+' :: rest => (false, rest)
  | rest => (false, rest)

/-- The integer of a magnitude and a sign. -/
def withSign (negative : Bool) (n : Nat) : Int := if negative then -n else n

/-- The values of a row of digits, where a single underscore may stand between two digits. -/
def digitRow? : List Char → Option (List Nat)
  | [] => none
  | [c] => (digitValue? c).map ([·])
  | c :: '_' :: rest => do
    let d ← digitValue? c
    let ds ← digitRow? rest
    some (d :: ds)
  | c :: rest => do
    let d ← digitValue? c
    let ds ← digitRow? rest
    some (d :: ds)

/-- The integer that a text spells, if it spells one of at most `maxDigits` digits. -/
def integer? (s : String) : Option Int := do
  let (negative, body) := splitSign (trim isWhiteSpace s.toList)
  let ds ← digitRow? body
  if ds.length ≤ maxDigits then some (withSign negative (ofDigitValues ds)) else none

end SqlBackend.Numeric
