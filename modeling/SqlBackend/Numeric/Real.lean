import SqlBackend.Numeric.Binary64
import SqlBackend.Numeric.Integer

/-!
# Numerals of real numbers

A numeral is a sign, digits with a point somewhere among them, and an exponent of ten, or one of the
words for infinity and for what is no number, in any case. `exactReal?` reads just that; `real?`
also takes white space around it, or single underscores inside it.
-/

namespace SqlBackend.Numeric

open SqlBackend.Text

/-- The exponent part of a numeral; nothing at all stands for zero. -/
def exponentPart? : List Char → Option Int
  | [] => some 0
  | c :: rest =>
    let (negative, digits) := splitSign rest
    if asciiLower c = 'e' && !digits.isEmpty && digits.all isAsciiDigit then
      some (withSign negative (ofAsciiDigits digits))
    else none

/-- The digits after a leading point, and what follows them. -/
def fractionPart : List Char → List Char × List Char
  | '.' :: rest => (rest.takeWhile isAsciiDigit, rest.dropWhile isAsciiDigit)
  | rest => ([], rest)

/-- The number of a numeral without sign; digits must stand on one side of the point at least. -/
def unsignedReal? (negative : Bool) (cs : List Char) : Option Binary64 :=
  let word := String.ofList (cs.map asciiLower)
  if word = "nan" then some .nan
  else if word = "inf" ∨ word = "infinity" then some (.infinite negative)
  else
    let whole := cs.takeWhile isAsciiDigit
    let (fraction, rest) := fractionPart (cs.dropWhile isAsciiDigit)
    if whole.isEmpty && fraction.isEmpty then none
    else (exponentPart? rest).map fun e =>
      .ofDecimal negative (ofAsciiDigits (whole ++ fraction)) (e - fraction.length)

/-- The number that a text spells with nothing around or between. -/
def exactReal? (cs : List Char) : Option Binary64 :=
  let (negative, body) := splitSign cs
  unsignedReal? negative body

/-- Whether two underscores stand side by side. -/
def doubledUnderscore : List Char → Bool
  | [] => false
  | [_] => false
  | c :: d :: rest => (c == '_' && d == '_') || doubledUnderscore (d :: rest)

/-- The text without its underscores, if it has some, all single and none at an end. -/
def withoutUnderscores? (cs : List Char) : Option (List Char) :=
  if cs.head? == some '_' || cs.getLast? == some '_' || !cs.contains '_' || doubledUnderscore cs
  then none
  else some (cs.filter (· != '_'))

/-- The number that a text spells, white space around it or underscores inside it allowed. -/
def real? (s : String) : Option Binary64 :=
  exactReal? (trim isWhiteSpace s.toList) <|> (withoutUnderscores? s.toList).bind exactReal?

end SqlBackend.Numeric
