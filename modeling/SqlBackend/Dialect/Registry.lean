import SqlBackend.Dialect.Builtin
import SqlBackend.Text.Blank
import SqlBackend.Text.Lowercase

/-!
# Dialects by scheme

A backend is asked for by the scheme of its address or by an alias. What follows a plus, as in
`oracle+thin`, names a driver and does not count; white space around the name and upper case do not
count either.
-/

namespace SqlBackend

open SqlBackend.Text

namespace Dialect

/-- Whether a name is one of the dialect's schemes or aliases. -/
def answersTo (d : Dialect) (name : String) : Bool :=
  d.schemes.contains name || d.aliases.contains name

/-- The name that a scheme stands for. -/
def normalizedScheme (scheme : String) : String :=
  String.ofList (lowerChars (trim isBlank (scheme.toList.takeWhile (· != '+'))))

/-- The engine that goes by a name. -/
def engineOfName? (name : String) : Option Engine :=
  Engine.all.find? (·.dialect.answersTo name)

/-- The dialect that a scheme stands for, if any does. -/
def ofScheme? (scheme : String) : Option Dialect :=
  (engineOfName? (normalizedScheme scheme)).map Engine.dialect

/-- The dialect for what was given as a scheme; nothing at all counts as the empty scheme. -/
def ofGivenScheme (given : Value) : Except Fault Dialect :=
  match given with
  | .text scheme => (Fault.unsupportedScheme given).unlessSome (ofScheme? scheme)
  | _ =>
    if given.truthy then .error .missingAttribute
    else (Fault.unsupportedScheme given).unlessSome (ofScheme? "")

end Dialect

end SqlBackend
