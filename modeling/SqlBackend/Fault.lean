import SqlBackend.Complaint
import SqlBackend.ErrorKind
import SqlBackend.Value

/-!
# Faults

Everything that can stop an operation, by cause. `Fault.message` gives the text of those that have
one. All but an interrupt raised by a driver can be held back by a handler: `Fault.isInterrupt`.
-/

namespace SqlBackend

open SqlBackend.Numeric

/-- Why an address cannot be taken apart. -/
inductive AddressError where
  | unbalancedBrackets
  | notAnAddress (host : String)
  | bracketedIPv4
  | malformedFutureAddress
  | deceptiveAuthority (authority : String)
  | portNotNumeric (port : String)
  | portTooLong (digits : Nat)
  | portOutOfRange
  deriving DecidableEq, Repr, Inhabited

/-- The refusal of a numeral with too many digits. Their number is known of a numeral that is read, not
of one that would have to be written. -/
def tooManyDigits (digits : Option Nat) : String :=
  "Exceeds the limit (" ++ maxDigits.repr ++ " digits) for integer string conversion"
    ++ (match digits with
      | some digits => ": value has " ++ digits.repr ++ " digits"
      | none => "")
    ++ "; use sys.set_int_max_str_digits() to increase the limit"

def AddressError.message : AddressError → String
  | .unbalancedBrackets => "Invalid IPv6 URL"
  | .notAnAddress host => Text.quoted host ++ " does not appear to be an IPv4 or IPv6 address"
  | .bracketedIPv4 => "An IPv4 address cannot be in brackets"
  | .malformedFutureAddress => "IPvFuture address is invalid"
  | .deceptiveAuthority authority =>
    "netloc '" ++ authority ++ "' contains invalid characters under NFKC normalization"
  | .portNotNumeric port =>
    "Port could not be cast to integer value as " ++ Text.quoted port
  | .portTooLong digits => tooManyDigits (some digits)
  | .portOutOfRange => "Port out of range 0-65535"

/-- Why an operation did not come to its end. -/
inductive Fault where
  /-- No backend goes by the given name. -/
  | unsupportedScheme (given : Value)
  /-- No capability goes by the given name. -/
  | unknownCapability (name : String)
  /-- No kind of error goes by the given name. -/
  | unknownErrorKind (name : String)
  /-- A count that is not a non-negative integer. -/
  | badCount (name : String) (given : Value)
  /-- A padding that is not a non-empty text. -/
  | badPad (given : Value)
  /-- A waiting time that is negative or not finite. -/
  | badWait (given : Value)
  /-- A waiting time beyond the range of floating-point numbers. -/
  | waitBeyondRange
  /-- A number is asked for, and what is none is given. -/
  | notNumber
  /-- A number with an end is asked for, and an infinite one is given. -/
  | infiniteNumber
  /-- A numeral with more digits than `maxDigits`, read or to be written. -/
  | numeralTooLong (digits : Option Nat)
  /-- An address that cannot be taken apart. -/
  | badAddress (error : AddressError)
  /-- A backend that has no SQL builder of the given name. -/
  | unknownFragment (name : String)
  /-- A value of a type that the operation cannot work with, or too few or too many arguments. -/
  | wrongType
  /-- A value that lacks what the operation asks it for. -/
  | missingAttribute
  /-- A mapping that lacks the entry the operation asks it for. -/
  | missingEntry
  /-- A backend that has no scheme to build an address with. -/
  | noScheme
  /-- A driver that is not installed. -/
  | driverMissing
  /-- A driver argument that is given twice. -/
  | repeatedArgument (name : String)
  /-- An object of a session that does not exist or is of another kind. -/
  | noSuchObject (name : String)
  /-- Fields that did not pass validation. -/
  | rejected (complaints : List Complaint)
  /-- A question that could not be answered because the driver failed. -/
  | serviceFailure (kind : Option ErrorKind) (cause : DriverError)
  /-- A failure of the driver, passed on as it is. -/
  | raised (error : DriverError)
  deriving Inhabited

namespace Fault

/-- Whether the fault is an interrupt, which no handler may hold back. -/
def isInterrupt : Fault → Bool
  | raised error => error.severity = .interrupt
  | _ => false

/-- The text of a fault, for those that have one. -/
def message : Fault → Option String
  | unsupportedScheme given => some ("Unsupported database scheme: " ++ given.shown)
  | unknownCapability name => some (Text.quoted name ++ " is not a valid Capability")
  | unknownErrorKind name => some (Text.quoted name ++ " is not a valid ErrorKind")
  | badCount name given =>
    some ("`" ++ name ++ "` must be a non-negative integer, got " ++ given.quoted)
  | badPad given => some ("pad must be a non-empty string, got " ++ given.quoted)
  | badWait given =>
    some ("fallback_wait must be a finite, non-negative number of seconds, got " ++ given.quoted)
  | waitBeyondRange => some "int too large to convert to float"
  | notNumber => some "cannot convert float NaN to integer"
  | infiniteNumber => some "cannot convert float infinity to integer"
  | numeralTooLong digits => some (tooManyDigits digits)
  | badAddress error => some error.message
  | unknownFragment name => some name
  | serviceFailure _ _ => some "Unable to determine whether database exists"
  | _ => none

/-- The refusal to assign to a field. -/
def frozenField (field : String) : Fault := rejected [⟨[field], .frozen⟩]

end Fault

/-- The value, or the fault when there is none. -/
def Fault.unlessSome {α : Type} (fault : Fault) : Option α → Except Fault α
  | some a => .ok a
  | none => .error fault

/-- The fault whose message has the given part, unless that cannot be written. -/
def Fault.reporting (part : Option String) (fault : Fault) : Fault :=
  if part.isSome then fault else .numeralTooLong none

/-- An integer as it stands in a text. -/
def writtenInteger (i : Int) : Except Fault String :=
  (Fault.numeralTooLong none).unlessSome (decimal? i)

/-- A value as it stands in a text. -/
def Value.written (value : Value) : Except Fault String :=
  (Fault.numeralTooLong none).unlessSome value.shown?

end SqlBackend
