import SqlBackend.Pool.Config
import SqlBackend.Sql.Fragment

/-!
# Routines by name

Some routines of the library can be called by name with any arguments. They check what they are
given: how many arguments there are, and of what type each is.
-/

namespace SqlBackend

open SqlBackend.Sql SqlBackend.Numeric

/-- A routine that can be called by name. -/
inductive Routine where
  | quoteLiteral
  | checkCount
  | checkPad
  | present
  | sign
  | lpad
  | coerce
  | resolvePoolSize
  deriving DecidableEq, Repr, Inhabited

namespace Routine

def all : List Routine :=
  [.quoteLiteral, .checkCount, .checkPad, .present, .sign, .lpad, .coerce, .resolvePoolSize]

/-- The name by which callers ask for it. -/
def name : Routine → String
  | .quoteLiteral => "quote_literal"
  | .checkCount => "check_count"
  | .checkPad => "check_pad"
  | .present => "present"
  | .sign => "sign"
  | .lpad => "lpad"
  | .coerce => "coerce"
  | .resolvePoolSize => "resolve_pool_size"

def ofName? (name : String) : Option Routine :=
  all.find? (·.name = name)

/-- A text, without which the routine has nothing to work on. -/
def needText : Value → Except Fault String
  | .text s => .ok s
  | _ => .error .missingAttribute

/-- The parts of a value that are not null. -/
def presentItems (value : Value) : Except Fault Value :=
  (Fault.wrongType.unlessSome value.elements?).map fun items => .list (presentValues items)

/-- The text of a number without its fraction. -/
def wholeText : Value → Except Fault String
  | .bool b => writtenInteger b.toInt
  | .int i => writtenInteger i
  | .float x =>
    match x.truncate? with
    | some i => writtenInteger i
    | none => .error (if x = .nan then .notNumber else .infiniteNumber)
  | _ => .error .wrongType

/-- The check of a count whose name may be anything; only a refusal writes it. -/
def checkNamedCount (name value : Value) : Except Fault Nat :=
  (Sql.checkCount name.shown value).mapError (.reporting name.shown?)

def call : Routine → List Value → Action Value
  | .quoteLiteral, [value] => do return .text (Sql.quoteLiteral (← needText value))
  | .checkCount, [name, value] => do
    let count ← checkNamedCount name value
    return .int count
  | .checkPad, [pad] => do return .text (← Sql.checkPad pad)
  | .present, [fields] => Action.ofExcept (presentItems fields)
  | .sign, [field] => do return .text (Sql.sign (← field.written))
  | .lpad, [field, width, pad] => do return .text (← Sql.lpad field width pad)
  | .coerce, [value] => do return Pool.coerce (← needText value)
  | .resolvePoolSize, [value] => do return .int (← Pool.resolveSize value Pool.defaultSize)
  | .resolvePoolSize, [value, default] => do
    return ((← Pool.requestedSize value (wholeText default)).map Value.int).getD default
  | _, _ => Action.fail .wrongType

end Routine

end SqlBackend
