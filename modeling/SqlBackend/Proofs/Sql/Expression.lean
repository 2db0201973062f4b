import SqlBackend.Proofs.Sql.Token
import Mathlib.Data.Int.Bitwise

/-!
# Values of expressions

An expression is read from its tokens one by one: a bracket that is closed becomes an operand, with the
value of what stands in it, and whatever is not in brackets is taken apart at its operators, the loosest
first. Only the forms that the fragments are made of are explained; the value of any other expression is
given with the row, as that of a column is.
-/

namespace SqlBackend.Sql

open SqlBackend.Text

/-- A value of an expression. -/
inductive Datum where
  | integer (n : Int)
  | text (cs : List Char)
  | blob (bytes : List UInt8)
  deriving DecidableEq, Repr

/-- The text with `new` for each place where `pattern` stands, from the left and without overlaps. An
empty pattern stands nowhere. -/
def replaceAll (pattern new : List Char) : List Char → List Char
  | [] => []
  | c :: cs =>
    if pattern ≠ [] ∧ pattern.isPrefixOf (c :: cs) then
      new ++ replaceAll pattern new ((c :: cs).drop pattern.length)
    else c :: replaceAll pattern new cs
termination_by cs => cs.length
decreasing_by
  · next h =>
      have hlength := List.length_pos_iff.mpr h.1
      rw [List.length_drop, List.length_cons]
      omega
  · exact Nat.lt_succ_self _

/-- A byte as two hexadecimal digits. -/
def hexDigits (byte : UInt8) : List Char :=
  [(byte.toNat / 16).digitChar.toUpper, (byte.toNat % 16).digitChar.toUpper]

/-- A function that fragments call. -/
inductive KnownFunction where
  | length
  | substr
  | replace
  | hex
  | zeroblob
  | bitand
  deriving DecidableEq, Repr

namespace KnownFunction

/-- The functions by their names in small letters. -/
def names : List (List Char × KnownFunction) :=
  [("length".toList, length), ("substr".toList, substr), ("replace".toList, replace),
   ("hex".toList, hex), ("zeroblob".toList, zeroblob), ("bitand".toList, bitand)]

def ofName? (name : List Char) : Option KnownFunction := names.lookup (name.map asciiLower)

/-- Characters are counted up to the first null, and from one where a part of a text is taken. -/
def result? : KnownFunction → List Datum → Option Datum
  | length, [.text cs] => some (.integer (cs.takeWhile (· ≠ '\x00')).length)
  | substr, [.text cs, .integer start, .integer count] =>
    if 1 ≤ start ∧ 0 ≤ count then some (.text ((cs.drop (start.toNat - 1)).take count.toNat))
    else none
  | replace, [.text cs, .text pattern, .text new] => some (.text (replaceAll pattern new cs))
  | hex, [.blob bytes] => some (.text (bytes.flatMap hexDigits))
  | zeroblob, [.integer n] => some (.blob (List.replicate n.toNat 0))
  | bitand, [.integer a, .integer b] => some (.integer (Int.land a b))
  | _, _ => none

end KnownFunction

/-- A part of an expression: a token, or what has been read as an operand, with its tokens and its
value. -/
inductive Item where
  | token (t : Token)
  | operand (ts : List Token) (value : Option Datum)
  deriving DecidableEq

namespace Item

def tokens : Item → List Token
  | token t => [t]
  | operand ts _ => ts

/-- A bracket begins with it. -/
def opens : Item → Bool
  | token .openParen => true
  | token .caseWord => true
  | _ => false

/-- It may be an operand. -/
def isOperand : Item → Bool
  | operand _ _ => true
  | token (.name _) => true
  | token (.number _) => true
  | token (.text _) => true
  | _ => false

/-- It may stand where no operator separates two operands. -/
def isTermPart : Item → Bool
  | token .complement => true
  | item => item.isOperand

/-- It may stand in an expression that has no others beside it. -/
def isPart : Item → Bool
  | token (.operator _) => true
  | item => item.isTermPart

end Item

/-- What an expression is evaluated for: the values that are given by the tokens, those of the columns
above all, and those of the expressions that the rules below do not explain. -/
structure Row where
  given : List Token → Option Datum

namespace Operator

/-- The operators, the loosest first. -/
def all : List Operator := [atLeast, bitAnd, minus, join]

def result? : Operator → Datum → Datum → Option Datum
  | atLeast, .integer a, .integer b => some (.integer (if b ≤ a then 1 else 0))
  | bitAnd, .integer a, .integer b => some (.integer (Int.land a b))
  | minus, .integer a, .integer b => some (.integer (a - b))
  | join, .text a, .text b => some (.text (a ++ b))
  | _, _, _ => none

/-- The operator between each two of some values, from the left. -/
def fold? (op : Operator) : List (Option Datum) → Option Datum
  | [] => none
  | first :: others => others.foldl (fun u v => u.bind fun u => v.bind (op.result? u)) first

/-- The items taken apart at an operator. -/
def chain? (op : Operator) (part : List Item → Option Datum) (items : List Item) : Option Datum :=
  op.fold? ((items.splitOn (.token (.operator op))).map part)

end Operator

def complement? : Datum → Option Datum
  | .integer n => some (.integer n.not)
  | _ => none

namespace Row

variable (row : Row)

/-- The value of an item by itself. -/
def value? : Item → Option Datum
  | .operand _ value => value
  | .token (.number n) => some (.integer n)
  | .token (.text cs) => some (.text cs)
  | .token (.name cs) => row.given [.name cs]
  | .token _ => none

/-- The value of an operand with complements before it. -/
def operandValue? : List Item → Option Datum
  | [item] => row.value? item
  | .token .complement :: items => (operandValue? items).bind complement?
  | _ => none

/-- The value of an expression without brackets. -/
def expressionValue? : List Item → Option Datum :=
  Operator.all.foldr Operator.chain? row.operandValue?

/-- The value of a function for the expressions between commas. -/
def callValue? (name : List Char) (arguments : List Item) : Option Datum :=
  (KnownFunction.ofName? name).bind fun f =>
    ((arguments.splitOn (.token .comma)).mapM row.expressionValue?).bind f.result?

/-- The value of the one of two expressions that a condition chooses. -/
def choiceValue? : List Item → Option Datum
  | .token .whenWord :: items =>
    match items.splitOn (.token .thenWord) with
    | [condition, branches] =>
      match branches.splitOn (.token .elseWord) with
      | [yes, no] => (row.expressionValue? condition).bind fun
        | .integer n => if n = 0 then row.expressionValue? no else row.expressionValue? yes
        | _ => none
      | _ => none
    | _ => none
  | _ => none

/-- The operand of some tokens. Where the rules have no value for it, it has the given one. -/
def operand (ts : List Token) (value : Option Datum) : Item :=
  .operand ts (value.or (row.given ts))

/-- The items with a group behind them, which is a call if a name stands right before it. The items are
given with the latest first. -/
def closeParen (inner : List Item) : List Item → List Item
  | .token (.name f) :: before =>
    row.operand (.name f :: .openParen :: inner.flatMap Item.tokens ++ [.closeParen])
      (row.callValue? f inner) :: before
  | before =>
    row.operand (.openParen :: inner.flatMap Item.tokens ++ [.closeParen])
      (row.expressionValue? inner) :: before

/-- The items with a choice behind them. -/
def closeCase (inner before : List Item) : List Item :=
  row.operand (.caseWord :: inner.flatMap Item.tokens ++ [.endWord]) (row.choiceValue? inner) :: before

end Row

/-- The items since the latest bracket that is open, and those before it, if it was opened by `opening`.
The items are given with the latest first. -/
def sinceOpening? (opening : Token) : List Item → Option (List Item × List Item)
  | [] => none
  | item :: items =>
    if item.opens then if item = .token opening then some ([], items) else none
    else (sinceOpening? opening items).map (Prod.map (· ++ [item]) id)

namespace Row

variable (row : Row)

/-- The items, the latest first, after one more token. -/
def step (items : List Item) : Token → Option (List Item)
  | .closeParen => (sinceOpening? .openParen items).map fun (inner, before) =>
    row.closeParen inner before
  | .endWord => (sinceOpening? .caseWord items).map fun (inner, before) =>
    row.closeCase inner before
  | t => some (.token t :: items)

/-- The tokens are read as these items. -/
def Spells (ts : List Token) (items : List Item) : Prop :=
  ts.foldlM row.step [] = some items.reverse

/-- The value of an expression. There is none if the text has a null, falls into no tokens, or has
brackets that do not match. -/
def evaluate (text : String) : Option Datum :=
  if '\x00' ∈ text.toList then none
  else do
    let ts ← tokens? text.toList
    let items ← ts.foldlM row.step []
    if items.any Item.opens then none
    else (row.expressionValue? items.reverse).or (row.given ts)

end Row

end SqlBackend.Sql
