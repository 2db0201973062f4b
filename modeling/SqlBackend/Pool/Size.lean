import SqlBackend.Action.Basic
import SqlBackend.Text.Blank
import SqlBackend.Text.Digit

/-!
# The size of a pool

The size is asked for by a property, as a text of ASCII digits with white space around it. Anything
else leaves the size as it is by default and warns, but nothing at all leaves it in silence.
-/

namespace SqlBackend.Pool

open SqlBackend.Text SqlBackend.Numeric

/-- The size of a pool when no other is asked for. -/
def defaultSize : Int := 100

/-- The property that asks for a size. -/
def sizeProperty : String := "maxActive"

def sizeWarning (message : String) : Record :=
  { level := .warning, origin := .pool, message := message }

/-- The warning about a value that is no row of digits. -/
def unreadableSize (given : Value) (default : String) : Record :=
  sizeWarning ("unable to parse '" ++ sizeProperty ++ "' pref " ++ given.quoted
    ++ "; defaulting pool size to " ++ default)

/-- The warning about a row of digits that spells no positive number. -/
def sizeNotPositive (default : String) : Record :=
  sizeWarning ("'" ++ sizeProperty ++ "' pref must be positive, got " ++ decimal 0
    ++ "; defaulting pool size to " ++ default)

/-- What a value asks for as a size. -/
inductive SizeRequest where
  | nothing
  | unreadable
  | tooLong (digits : Nat)
  | zero
  | size (n : Nat)
  deriving DecidableEq, Repr, Inhabited

/-- What a value holds between white space; only a text holds anything. -/
def sizeDigits : Value → List Char
  | .text s => trim isBlank s.toList
  | _ => []

def SizeRequest.ofValue : Value → SizeRequest
  | .null => .nothing
  | given =>
    let digits := sizeDigits given
    if digits.isEmpty || !digits.all isAsciiDigit then .unreadable
    else if maxDigits < digits.length then .tooLong digits.length
    else if ofAsciiDigits digits = 0 then .zero
    else .size (ofAsciiDigits digits)

/-- The size that a value asks for, none where the default stands. A warning shows the default by its
text, and cannot be given when it has none. -/
def requestedSize (given : Value) (default : Except Fault String) : Action (Option Int) := do
  match SizeRequest.ofValue given with
  | .nothing => return none
  | .unreadable =>
    Action.log (unreadableSize given (← default))
    return none
  | .tooLong digits => Action.fail (.numeralTooLong (some digits))
  | .zero =>
    Action.log (sizeNotPositive (← default))
    return none
  | .size n => return some n

/-- The size that a value asks for, or the default. -/
def resolveSize (given : Value) (default : Int) : Action Int := do
  return (← requestedSize given (.ok (decimal default))).getD default

end SqlBackend.Pool
