import SqlBackend.Numeric.Shortest
import SqlBackend.Numeric.Integer
import SqlBackend.Text.Quoted

/-!
# Values

Drivers hand back errors and rows whose parts may be anything, and settings or fragment arguments
may arrive with the wrong type. `Value` is what such a part can be. `Value.shown?` is how it is put
into a text, `Value.quoted?` how a message reports it: a text is shown bare and reported between
quotes, an error is shown as what it says and reported as what it is. A value is neither shown nor
reported if an integer has to be written for it that has too many digits.
-/

namespace SqlBackend

open SqlBackend.Numeric

/-- What kind of failure a driver raised: an ordinary error, one of the operating system, or an
interrupt, which no handler of errors may hold back. -/
inductive Severity where
  | ordinary
  | system
  | interrupt
  deriving DecidableEq, Repr, Inhabited

/-- The name under which a failure of this kind is reported. -/
def Severity.name : Severity → String
  | .ordinary => "DriverError"
  | .system => "DriverOSError"
  | .interrupt => "DriverInterrupt"

/-- A failure raised by a driver: its arguments, its further attributes, and a tag to tell it by. -/
structure Raised (α : Type) where
  severity : Severity
  tag : String
  args : List α
  attributes : List (String × α)
  deriving Inhabited

/-- Anything that a driver, a setting or an argument may turn out to be. -/
inductive Value where
  | null
  | bool (b : Bool)
  | int (i : Int)
  | float (x : Binary64)
  | text (s : String)
  | list (items : List Value)
  | mapping (entries : List (String × Value))
  | raised (error : Raised Value)
  | object (attributes : List (String × Value))
  deriving Inhabited

abbrev DriverError := Raised Value

namespace Value

mutual

/-- How a message reports a value. -/
def quoted? : Value → Option String
  | null => some "None"
  | bool b => some (if b then "True" else "False")
  | int i => decimal? i
  | float x => some x.text
  | text s => some (Text.quoted s)
  | list items => do return "[" ++ ", ".intercalate (← quotedItems? items) ++ "]"
  | mapping entries => do
    let members := (← quotedEntries? entries).map fun entry =>
      Text.quoted entry.1 ++ ": " ++ entry.2
    return "\x7b" ++ ", ".intercalate members ++ "\x7d"
  | raised ⟨severity, _, args, _⟩ => do
    return severity.name ++ "(" ++ ", ".intercalate (← quotedItems? args) ++ ")"
  | object _ => some "object"

def quotedItems? : List Value → Option (List String)
  | [] => some []
  | item :: rest => do return (← quoted? item) :: (← quotedItems? rest)

def quotedEntries? : List (String × Value) → Option (List (String × String))
  | [] => some []
  | (key, value) :: rest => do return (key, ← quoted? value) :: (← quotedEntries? rest)

end

/-- The text of an error, from its arguments as they are shown and as they are reported: its one
argument, or several between parentheses. -/
def argumentsText? (shown : List (Option String)) (quoted : Option (List String)) : Option String :=
  match shown with
  | [] => some ""
  | [only] => only
  | _ => do return "(" ++ ", ".intercalate (← quoted) ++ ")"

/-- The text of a failure of the operating system, from its attributes as they are shown and its files
as they are reported: its number, what it means, and the files concerned. One that knows neither a
file nor both of the others has its text from its arguments. -/
def systemText? (shown files : List (String × Option String)) (otherwise : Option String) :
    Option String :=
  let part (name : String) := (shown.lookup name).getD null.quoted?
  let heading := do return "[Errno " ++ (← part "errno") ++ "] " ++ (← part "strerror")
  match files.lookup "filename", files.lookup "filename2" with
  | some file, some other => do return (← heading) ++ ": " ++ (← file) ++ " -> " ++ (← other)
  | some file, none => do return (← heading) ++ ": " ++ (← file)
  | none, _ =>
    if (shown.lookup "errno").isSome && (shown.lookup "strerror").isSome then heading else otherwise

mutual

/-- How a value stands in a text. -/
def shown? : Value → Option String
  | text s => some s
  | raised ⟨severity, _, args, attributes⟩ =>
    let own := argumentsText? (shownItems args) (quotedItems? args)
    if severity = .system then
      systemText? (shownEntries attributes)
        (attributes.map fun entry => (entry.1, quoted? entry.2)) own
    else own
  | value => value.quoted?

def shownItems : List Value → List (Option String)
  | [] => []
  | item :: rest => shown? item :: shownItems rest

def shownEntries : List (String × Value) → List (String × Option String)
  | [] => []
  | (key, value) :: rest => (key, shown? value) :: shownEntries rest

end

@[simp] theorem shown?_text (s : String) : (text s).shown? = some s := by simp [shown?]

@[simp] theorem shown?_int (i : Int) : (int i).shown? = decimal? i := by simp [shown?, quoted?]

@[simp] theorem quoted?_int (i : Int) : (int i).quoted? = decimal? i := by simp [quoted?]

/-- How a record shows a value; it is left out if it cannot be shown. -/
def shown (value : Value) : String := value.shown?.getD ""

/-- How a record reports a value; it is left out if it cannot be reported. -/
def quoted (value : Value) : String := value.quoted?.getD ""

@[simp] theorem shown_text (s : String) : (text s).shown = s := by simp [shown]

/-- Whether a value counts as something: not null, not false, not zero and not empty. -/
def truthy : Value → Bool
  | null => false
  | bool b => b
  | int i => i != 0
  | float x => !x.isZero
  | text s => !s.isEmpty
  | list items => !items.isEmpty
  | mapping entries => !entries.isEmpty
  | raised _ => true
  | object _ => true

/-- The attribute of a value under a name; only driver errors and objects have any. -/
def attribute? (value : Value) (name : String) : Option Value :=
  match value with
  | raised error => if name = "args" then some (list error.args) else error.attributes.lookup name
  | object attributes => attributes.lookup name
  | _ => none

def text? : Value → Option String
  | text s => some s
  | _ => none

/-- The parts of a value that holds others: the items of a list, the characters of a text and the keys
of a mapping. -/
def elements? : Value → Option (List Value)
  | list items => some items
  | text s => some (s.toList.map fun c => text (String.singleton c))
  | mapping entries => some (entries.map fun entry => text entry.1)
  | _ => none

/-- The integer or floating-point number that a value counts as in a comparison. -/
def amount? : Value → Option (Int ⊕ Binary64)
  | bool b => some (.inl b.toInt)
  | int i => some (.inl i)
  | float x => some (.inr x)
  | _ => none

/-- Equality of an integer or floating-point number with another, by amount. -/
def sameAmount : Int ⊕ Binary64 → Int ⊕ Binary64 → Bool
  | .inl i, .inl j => i == j
  | .inr x, .inr y => x.same y
  | .inl i, .inr y => y.toInt? == some i
  | .inr x, .inl j => x.toInt? == some j

mutual

/-- Equality of values: numbers are compared by amount, whatever their kind. -/
def same : Value → Value → Bool
  | null, null => true
  | text s, text t => s == t
  | list xs, list ys => sameItems xs ys
  | mapping xs, mapping ys => xs.length == ys.length && sameEntries xs ys
  | x, y =>
    match x.amount?, y.amount? with
    | some a, some b => sameAmount a b
    | _, _ => false

def sameItems : List Value → List Value → Bool
  | [], [] => true
  | x :: xs, y :: ys => same x y && sameItems xs ys
  | _, _ => false

def sameEntries : List (String × Value) → List (String × Value) → Bool
  | [], _ => true
  | (key, x) :: rest, ys =>
    (match ys.lookup key with
      | some y => same x y
      | none => false) && sameEntries rest ys

end

end Value

end SqlBackend
