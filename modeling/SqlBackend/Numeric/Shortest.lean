import SqlBackend.Numeric.Binary64

/-!
# Floating-point numbers as text

`Binary64.text` writes the fewest decimal digits that read back as the same number, and of two such
decimals the nearer one. The decimal point is placed among the digits when the leading digit stands
for `10 ^ -4` to `10 ^ 15`; otherwise an exponent of at least two digits follows. `Binary64.tenths`
writes one digit after the point, rounding the exact value with ties to even.
-/

namespace SqlBackend.Numeric

namespace Binary64

/-- The decimal exponent of the leading digit of a positive quotient. -/
def leadingExponent (num den : Nat) : Int :=
  if den ≤ num then ((Nat.toDigits 10 (num / den)).length : Int) - 1
  else
    let k := (Nat.toDigits 10 (den / num)).length
    if den ≤ num * Nat.pow 10 (k - 1) then 1 - (k : Int) else -(k : Int)

/-- The neighbours of `num / den` among the multiples of `10 ^ exponent`, the nearer one first. -/
def neighbours (num den : Nat) (exponent : Int) : List Nat :=
  let scaled := scaleDown 10 num den exponent
  let q := scaled.1 / scaled.2
  let r := scaled.1 % scaled.2
  if 2 * r < scaled.2 ∨ (2 * r = scaled.2 ∧ q % 2 = 0) then [q, q + 1] else [q + 1, q]

/-- Looks for digits that read back, with `count` digits first and `extra` more allowed. -/
def digitsFrom (mantissa : Nat) (exponent : Int) : Nat → Nat → Nat × Int
  | count, extra =>
    let (num, den) := ratio mantissa exponent
    let place := leadingExponent num den - count + 1
    match (neighbours num den place).find?
        fun digits => ofDecimal false digits place == .finite false mantissa exponent, extra with
    | some digits, _ => (digits, place)
    | none, 0 => (0, 0)
    | none, extra + 1 => digitsFrom mantissa exponent (count + 1) extra

/-- Digits and place of the shortest decimal that reads back; seventeen digits always do. -/
def shortestDigits (mantissa : Nat) (exponent : Int) : Nat × Int :=
  digitsFrom mantissa exponent 1 16

/-- A decimal exponent with its sign and at least two digits. -/
def exponentText (e : Int) : List Char :=
  let digits := Nat.toDigits 10 e.natAbs
  (if e < 0 then '-' else '+') :: (if digits.length < 2 then '0' :: digits else digits)

/-- Lays out digits whose leading one stands for `10 ^ leading`. -/
def layout (digits : List Char) (leading : Int) : List Char :=
  if -4 ≤ leading ∧ leading < 0 then
    '0' :: '.' :: List.replicate (-leading - 1).toNat '0' ++ digits
  else if 0 ≤ leading ∧ leading < 16 then
    let whole := leading.toNat + 1
    if digits.length ≤ whole then
      digits ++ List.replicate (whole - digits.length) '0' ++ ['.', '0']
    else digits.take whole ++ '.' :: digits.drop whole
  else
    match digits with
    | [d] => d :: 'e' :: exponentText leading
    | d :: rest => d :: '.' :: rest ++ 'e' :: exponentText leading
    | [] => []

/-- The magnitude of a finite number in its shortest form. -/
def magnitudeText (mantissa : Nat) (exponent : Int) : List Char :=
  if mantissa = 0 then ['0', '.', '0'] else
  let (digits, place) := shortestDigits mantissa exponent
  let shown := Nat.toDigits 10 digits
  layout ((shown.reverse.dropWhile (· == '0')).reverse) (place + shown.length - 1)

/-- A number in its shortest form. -/
def text : Binary64 → String
  | .nan => "nan"
  | .infinite negative => if negative then "-inf" else "inf"
  | .finite negative mantissa exponent =>
    (if negative then "-" else "") ++ String.ofList (magnitudeText mantissa exponent)

/-- A number with one digit after the point. -/
def tenths : Binary64 → String
  | .nan => "nan"
  | .infinite negative => if negative then "-inf" else "inf"
  | .finite negative mantissa exponent =>
    let (num, den) := ratio mantissa exponent
    let n := roundHalfEven (10 * num) den
    (if negative then "-" else "") ++ (n / 10).repr ++ "." ++ (n % 10).repr

end Binary64

end SqlBackend.Numeric
