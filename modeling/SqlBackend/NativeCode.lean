import SqlBackend.ErrorKind
import SqlBackend.Fault

/-!
# Codes carried by errors

Drivers put their code in different places: on the first argument of the error, as that argument, or
in one of several attributes of the error. `nativeErrorCode` looks in a fixed order and takes the
first place that holds something usable. A truth value is never a code, and a failure of the
operating system has none, since its number is not the database's.
-/

namespace SqlBackend

/-- The code that a value is: an integer or a text. -/
def Code.ofValue? : Value → Option Code
  | .int n => some (.number n)
  | .text s => some (.word s)
  | _ => none

/-- The code that an integer value is. -/
def Code.ofInteger? : Value → Option Code
  | .int n => some (.number n)
  | _ => none

/-- Whether a value is a failure of the operating system. -/
def Value.isSystemError : Value → Bool
  | .raised error => error.severity = .system
  | _ => false

/-- The first item of what an error gives as its arguments, none when these count as nothing. -/
def firstArgument : Value → Except Fault (Option Value)
  | .list items => .ok items.head?
  | .text s => .ok (s.toList.head?.map fun c => .text (String.singleton c))
  | .mapping [] => .ok none
  | .mapping (_ :: _) => .error .missingEntry
  | arguments => if arguments.truthy then .error .wrongType else .ok none

/-- The code of an error's first argument: its attribute `code`, or else the argument itself. -/
def argumentCode? (first : Value) : Option Code :=
  (first.attribute? "code").bind Code.ofInteger? <|> Code.ofInteger? first

/-- The attributes in which an error may carry its code, in the order in which they count. -/
def codeAttributes : List String := ["errno", "sqlite_errorcode", "code"]

/-- The code in the first attribute that holds one. -/
def attributeCode? (error : Value) : Option Code :=
  codeAttributes.findSome? fun name => (error.attribute? name).bind Code.ofValue?

/-- The code that a driver's error carries, or that a value is. -/
def nativeErrorCode (error : Value) : Except Fault (Option Code) :=
  match Code.ofValue? error with
  | some code => .ok (some code)
  | none =>
    if error.isSystemError then .ok none
    else do
      let first ← firstArgument ((error.attribute? "args").getD (.list []))
      return first.bind argumentCode? <|> attributeCode? error

@[simp] theorem nativeErrorCode_bool (b : Bool) : nativeErrorCode (.bool b) = .ok none := rfl

theorem nativeErrorCode_of_isSystemError {error : Value} (h : error.isSystemError = true) :
    nativeErrorCode error = .ok none := by
  cases error <;> simp_all [nativeErrorCode, Code.ofValue?, Value.isSystemError]

end SqlBackend
