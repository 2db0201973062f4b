import SqlBackend.Checked.Numeral
import SqlBackend.Value

/-!
# Rules for fields

What a field of a record accepts. A text field takes texts only. The others are more lenient, since a
setting may come from the environment, where everything is a text: an integer field takes a truth
value, a floating-point number without fraction and a numeral; a field for a truth value takes the
usual words and the numbers zero and one; a field for a real number takes every number and its
numeral.
-/

namespace SqlBackend.Field

open SqlBackend.Text SqlBackend.Numeric

def text : Value → Except Problem String
  | .text s => .ok s
  | _ => .error .notText

/-- The first natural number that does not fit in 64 bits with a sign. -/
def wordBound : Nat := 0x8000000000000000

/-- Whether an integer fits in 64 bits with a sign. -/
def fitsWord (i : Int) : Bool := -wordBound ≤ i && i < wordBound

/-- The integer that a floating-point number is. -/
def wholeNumber (x : Binary64) : Except Problem Int :=
  if !x.isFinite then .error .notFinite
  else match x.toInt? with
    | none => .error .integerHasFraction
    | some i => if i.natAbs < wordBound then .ok i else .error .integerTooLong

def integer : Value → Except Problem Int
  | .int i => .ok i
  | .bool b => .ok b.toInt
  | .float x => wholeNumber x
  | .text s => readInteger s
  | _ => .error .notInteger

def positive (value : Value) : Except Problem { n : Nat // 0 < n } := do
  match ← integer value with
  | .ofNat n => if h : 0 < n then .ok ⟨n, h⟩ else .error .notPositive
  | .negSucc _ => .error .notPositive

/-- What the field accepts, or null. -/
def orNull {α : Type} (field : Value → Except Problem α) : Value → Except Problem (Option α)
  | .null => .ok none
  | value => (field value).map some

def trueWords : List String := ["1", "on", "t", "true", "y", "yes"]

def falseWords : List String := ["0", "off", "f", "false", "n", "no"]

/-- The truth value of a word, in any case. -/
def readTruth (s : String) : Except Problem Bool :=
  let word := String.ofList (s.toList.map asciiLower)
  if trueWords.contains word then .ok true
  else if falseWords.contains word then .ok false
  else .error .truthValueUnreadable

/-- One is true and zero is false. -/
def truthOfInteger (i : Int) : Except Problem Bool :=
  if i = 0 then .ok false else if i = 1 then .ok true else .error .truthValueUnreadable

def truth : Value → Except Problem Bool
  | .bool b => .ok b
  | .int i => if fitsWord i then truthOfInteger i else .error .notTruthValue
  | .float x =>
    match wholeNumber x with
    | .ok i => truthOfInteger i
    | .error _ => .error .notTruthValue
  | .text s => readTruth s
  | _ => .error .notTruthValue

def real : Value → Except Problem Binary64
  | .float x => .ok x
  | .bool b => .ok (.ofRatio false b.toNat 1)
  | .int i =>
    match Binary64.ofInt? i with
    | some x => .ok x
    | none => .error .notReal
  | .text s =>
    match real? s with
    | some x => .ok x
    | none => .error .realUnreadable
  | _ => .error .notReal

/-- A span of time in seconds: a finite number that is not negative. -/
structure Seconds where
  amount : Binary64
  isFinite : amount.isFinite = true
  not_negative : amount.isNegative = false

instance : Repr Seconds where
  reprPrec seconds n := reprPrec seconds.amount n

/-- A finite number that is not negative; one that is not finite is reported as that. -/
def seconds (value : Value) : Except Problem Seconds := do
  let x ← real value
  if finite : x.isFinite = true then
    if sign : x.isNegative = false then .ok ⟨x, finite, sign⟩ else .error .negative
  else .error .notFinite

end SqlBackend.Field
