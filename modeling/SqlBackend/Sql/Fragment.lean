import SqlBackend.Engine
import SqlBackend.Fault
import SqlBackend.Sql.Literal

/-!
# Fragments of statements

The places where engines spell the same thing differently: a hint for an index, a default for null,
bitwise operators, concatenation, the sign, padding on the left, and a window of rows. Each is a
function from its operands to the text for an engine. `Engine.fragment` is the entry for a fragment
asked for by name, whose operands may be anything: operands that are only put into the text are put
there as they are shown, a count must be a non-negative integer and a padding a non-empty text.
-/

namespace SqlBackend

/-- What a fragment does in a statement. -/
inductive Fragment where
  | indexHint
  | nullCoalesce
  | bitAnd
  | bitAndNot
  | concat
  | sign
  | lpad
  | limit
  deriving DecidableEq, Repr, Inhabited

namespace Fragment

def all : List Fragment :=
  [.indexHint, .nullCoalesce, .bitAnd, .bitAndNot, .concat, .sign, .lpad, .limit]

/-- The name by which callers ask for it. -/
def name : Fragment → String
  | .indexHint => "index_hint"
  | .nullCoalesce => "null_coalesce"
  | .bitAnd => "bit_and"
  | .bitAndNot => "bit_and_not"
  | .concat => "concat"
  | .sign => "sign"
  | .lpad => "lpad"
  | .limit => "limit"

def ofName? (name : String) : Option Fragment :=
  all.find? (·.name = name)

theorem ofName?_name (x : Fragment) : ofName? x.name = some x := by
  cases x <;> decide

end Fragment

namespace Sql

/-- The sign of a number; every engine spells it alike. -/
def sign (field : String) : String := "SIGN(" ++ field ++ ")"

/-- Padding with the function that is made for it; the width is a numeral. -/
def lpadCall (field width pad : String) : String :=
  "LPAD(" ++ field ++ ", " ++ width ++ ", " ++ quoteLiteral pad ++ ")"

/-- A padding of as many copies of `pad` as `width` says, spelled without a function for repetition: as
many zero bytes in hexadecimal, with `pad` for each byte. -/
def padding (width pad : String) : String :=
  "REPLACE(HEX(ZEROBLOB(" ++ width ++ ")), '00', " ++ quoteLiteral pad ++ ")"

/-- Padding spelled with lengths and cuts, for an engine without a function for it. -/
def lpadByCases (field width pad : String) : String :=
  "(CASE WHEN LENGTH(" ++ field ++ ") >= " ++ width ++ " THEN SUBSTR(" ++ field ++ ", 1, "
    ++ width ++ ") ELSE SUBSTR(" ++ padding width pad ++ ", 1, " ++ width
    ++ " - LENGTH(" ++ field ++ ")) || " ++ field ++ " END)"

def present (fields : List (Option String)) : List String := fields.filterMap id

/-- The operands with `||` between them, in parentheses. -/
def joinedByBars (fields : List String) : String :=
  "(" ++ " || ".intercalate fields ++ ")"

end Sql

namespace Engine

open SqlBackend.Sql

/-- The hint that an index is to be used. Oracle picks its access paths itself and does not look at the
index. -/
def indexHint : Engine → Value → Except Fault String
  | .mysql, index => do return "FORCE INDEX (" ++ (← index.written) ++ ")"
  | .oracle, _ => .ok ""
  | .sqlite, index => do return "INDEXED BY " ++ (← index.written)

/-- The first expression, or the second where the first is null. -/
def nullCoalesce : Engine → String → String → String
  | .mysql, a, b => "IFNULL(" ++ a ++ ", " ++ b ++ ")"
  | .oracle, a, b => "NVL(" ++ a ++ ", " ++ b ++ ")"
  | .sqlite, a, b => "IFNULL(" ++ a ++ ", " ++ b ++ ")"

/-- The bits that are set in both numbers. -/
def bitAnd : Engine → String → String → String
  | .mysql, a, b => a ++ " & " ++ b
  | .oracle, a, b => "BITAND(" ++ a ++ ", " ++ b ++ ")"
  | .sqlite, a, b => a ++ " & " ++ b

/-- The bits that are set in the first number and not in the second. -/
def bitAndNot : Engine → String → String → String
  | .mysql, a, b => a ++ " & ~" ++ b
  | .oracle, a, b => "(" ++ a ++ " - BITAND(" ++ a ++ ", " ++ b ++ "))"
  | .sqlite, a, b => a ++ " & ~" ++ b

/-- The concatenation of fields that are all present. -/
def concatPresent : Engine → List String → String
  | .mysql, fields => "CONCAT(" ++ ", ".intercalate fields ++ ")"
  | .oracle, [] => quoteLiteral ""
  | .oracle, [field] => field
  | .oracle, fields => joinedByBars fields
  | .sqlite, [] => quoteLiteral ""
  | .sqlite, fields => joinedByBars fields

/-- The field cut to `width` characters, or filled up on the left with copies of `pad`. -/
def lpad : Engine → String → String → String → String
  | .mysql => lpadCall
  | .oracle => lpadCall
  | .sqlite => lpadByCases

/-- The window of `count` rows after the first `offset`, both of them numerals. -/
def limit : Engine → String → String → String
  | .mysql, offset, count => "LIMIT " ++ offset ++ "," ++ count
  | .oracle, offset, count => "OFFSET " ++ offset ++ " ROWS FETCH NEXT " ++ count ++ " ROWS ONLY"
  | .sqlite, offset, count => "LIMIT " ++ offset ++ "," ++ count

end Engine

namespace Sql

/-- The non-negative integer that a value is. -/
def checkCount (name : String) : Value → Except Fault Nat
  | .int (.ofNat n) => .ok n
  | given => .error (.reporting given.quoted? (.badCount name given))

@[simp] theorem checkCount_natCast (name : String) (n : Nat) :
    checkCount name (.int (n : Int)) = .ok n := rfl

/-- The numeral of a non-negative integer, which is checked before it is written. -/
def countNumeral (name : String) (given : Value) : Except Fault String := do
  let count ← checkCount name given
  writtenInteger count

/-- The non-empty text that a value is. -/
def checkPad (given : Value) : Except Fault String :=
  let fault := Fault.reporting given.quoted? (.badPad given)
  match given with
  | .text s => if s.isEmpty then .error fault else .ok s
  | _ => .error fault

/-- Padding of any value with the function for it. The operands are looked at one after the other. -/
def lpad (field width pad : Value) : Except Fault String := do
  let field ← field.written
  let width ← countNumeral "width" width
  let pad ← checkPad pad
  return lpadCall field width pad

/-- Padding of any value without a function for it. The field is looked at last. -/
def lpadWithoutCall (field width pad : Value) : Except Fault String := do
  let width ← countNumeral "width" width
  let pad ← checkPad pad
  let field ← field.written
  return lpadByCases field width pad

/-- The values that are not null. -/
def presentValues (values : List Value) : List Value :=
  values.filter fun
    | .null => false
    | _ => true

/-- The texts that values are, if all are. -/
def texts? (values : List Value) : Option (List String) := values.mapM Value.text?

end Sql

namespace Engine

open SqlBackend.Sql

/-- Concatenation of any values. Oracle hands a single field on as it is; elsewhere each field must
be a text. -/
def concatValues (engine : Engine) (fields : List Value) : Except Fault Value :=
  match engine, presentValues fields with
  | .oracle, [field] => .ok field
  | _, fields => (Fault.wrongType.unlessSome (texts? fields)).map (.text ∘ engine.concatPresent)

/-- Padding of any value. -/
def paddedValue : Engine → Value → Value → Value → Except Fault String
  | .mysql => Sql.lpad
  | .oracle => Sql.lpad
  | .sqlite => lpadWithoutCall

/-- The window of rows that two values ask for; of two wrong ones the offset is reported. -/
def window (engine : Engine) (offset count : Value) : Except Fault String := do
  let offset ← countNumeral "offset" offset
  let count ← countNumeral "count" count
  return engine.limit offset count

/-- The text of a fragment for any operands. -/
def fragment (engine : Engine) : Fragment → List Value → Except Fault Value
  | .indexHint, [index] => do return .text (← engine.indexHint index)
  | .nullCoalesce, [a, b] => do
    return .text (engine.nullCoalesce (← a.written) (← b.written))
  | .bitAnd, [a, b] => do return .text (engine.bitAnd (← a.written) (← b.written))
  | .bitAndNot, [a, b] => do return .text (engine.bitAndNot (← a.written) (← b.written))
  | .concat, fields => engine.concatValues fields
  | .sign, [field] => do return .text (sign (← field.written))
  | .lpad, [field, width, pad] => do return .text (← engine.paddedValue field width pad)
  | .limit, [offset, count] => do return .text (← engine.window offset count)
  | _, _ => .error .wrongType

end Engine

end SqlBackend
