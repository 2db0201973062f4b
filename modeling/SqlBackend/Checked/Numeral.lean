import SqlBackend.Complaint
import SqlBackend.Numeric.Real

/-!
# Numerals in integer fields

An integer field takes a numeral: a minus at most and ASCII digits, the first of them no needless
zero. `exactInteger` reads just that. A text that is none is cleaned once of what does no harm (white
space around it, a plus, zeros in front, single underscores, a fraction of zeros) and read again.

A numeral is too long when its digits, the minus counted among them, are more than `maxDigits`,
whatever follows them. Only the text as it was given is called so; one that is too long when it has
been cleaned is unreadable like any other.
-/

namespace SqlBackend.Field

open SqlBackend.Text SqlBackend.Numeric

/-- Splits off a minus; the flag tells that there was one. -/
def splitMinus : List Char → Bool × List Char
  | '-' :: rest => (true, rest)
  | rest => (false, rest)

/-- The integer of a numeral of a minus at most and ASCII digits, the first of them no needless
zero. -/
def exactInteger (cs : List Char) : Except Problem Int :=
  let (negative, body) := splitMinus cs
  let digits := body.takeWhile isAsciiDigit
  if digits.isEmpty then .error .integerUnreadable
  else if digits.head? == some '0' then
    if body.length = 1 then .ok 0 else .error .integerUnreadable
  else if maxDigits < digits.length + negative.toNat then .error .integerTooLong
  else if digits.length = body.length then .ok (withSign negative (ofAsciiDigits digits))
  else .error .integerUnreadable

/-- What follows the zeros and underscores in front: another digit or a minus and all after it, a
point and the character before it, or the last of them when nothing else follows. -/
def afterZeros? (last : Char) : List Char → Option (List Char)
  | [] => some [last]
  | c :: rest =>
    if c == '0' || c == '_' then afterZeros? c rest
    else if c == '.' then some (last :: c :: rest)
    else if c == '-' || isAsciiDigit c then some (c :: rest)
    else none

/-- A numeral without needless zeros in front, which must begin with a digit or a minus. -/
def withoutLeadingZeros? : List Char → Option (List Char)
  | [] => none
  | c :: rest =>
    if c == '0' then afterZeros? c rest
    else if c == '-' || isAsciiDigit c then some (c :: rest)
    else none

/-- A numeral without a fraction of zeros, of which there must be one at least. -/
def withoutZeroFraction (cs : List Char) : List Char :=
  match cs.dropWhile (· != '.') with
  | _ :: '0' :: fraction => if fraction.all (· == '0') then cs.takeWhile (· != '.') else cs
  | _ => cs

/-- Splits off a minus, or a plus that no minus follows, which does not count. -/
def splitFieldSign : List Char → Bool × List Char
  | '+' :: '-' :: rest => (false, '+' :: '-' :: rest)
  | '+' :: rest => (false, rest)
  | rest => splitMinus rest

/-- A numeral without what does no harm. -/
def cleanNumeral? (cs : List Char) : Option (List Char) :=
  let (negative, body) := splitFieldSign (trim isWhiteSpace cs)
  (withoutLeadingZeros? body).map fun body =>
    let body := withoutZeroFraction body
    (if negative then ['-'] else []) ++ (withoutUnderscores? body).getD body

/-- The integer of a numeral, read as it is or else cleaned. -/
def readInteger (s : String) : Except Problem Int :=
  match exactInteger s.toList with
  | .error .integerUnreadable =>
    match (cleanNumeral? s.toList).map exactInteger with
    | some (.ok i) => .ok i
    | _ => .error .integerUnreadable
  | outcome => outcome

end SqlBackend.Field
