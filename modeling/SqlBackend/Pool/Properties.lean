import SqlBackend.Action.Basic
import SqlBackend.Dialect.Basic
import SqlBackend.Text.Blank
import SqlBackend.Text.Lowercase

/-!
# Properties of a connection

A pool hands its driver a table of properties. It starts from the defaults of the dialect; overrides
whose keys begin with the dialect's own beginning are put over them under the rest of the key. Since
all properties are texts, `coerce` finds the truth values and integers among them, except for
credentials, which are always texts.
-/

namespace SqlBackend.Pool

open SqlBackend.Text SqlBackend.Numeric

/-- The property that no override sets. -/
def reservedProperty : String := "logger"

/-- Whether a property, in whatever case its name is, holds a credential. -/
def isCredential (name : String) : Bool := name == "user" || name == "password"

/-- The name of the property that an override sets, if it sets one. -/
def overrideName? (d : Dialect) (key : String) : Option String := do
  let start := d.propertyPrefix.toList
  if start.isPrefixOf key.toList then
    let name := String.ofList (key.toList.drop start.length)
    if name.isEmpty || lower name == reservedProperty then none else some name
  else none

/-- The record of an override; the value of a credential is not shown. -/
def overrideRecord (d : Dialect) (name : String) (value : Value) : Record :=
  { level := .info, origin := .pool
    message := "Setting " ++ d.name ++ " connector property: " ++ name ++ "="
      ++ (if isCredential (lower name) then "****" else value.shown) }

/-- Puts the overrides over the properties, one after the other. -/
def applyOverrides (d : Dialect) :
    List (String × Value) → Table String Value → Action (Table String Value)
  | [], properties => return properties
  | (key, value) :: rest, properties =>
    match overrideName? d key with
    | none => applyOverrides d rest properties
    | some name => do
      Action.log (overrideRecord d name value)
      applyOverrides d rest (properties.put name value)

/-- The defaults of a dialect with the overrides put over them. -/
def connectorProperties (d : Dialect) (overrides : Table String Value) :
    Action (Table String Value) :=
  applyOverrides d overrides.entries (d.defaultProperties.mapValues fun _ v => .text v)

/-- The truth value that a text spells, white space around it and upper case allowed. -/
def truthOf? (s : String) : Option Bool :=
  let word := String.ofList (lowerChars (trim isBlank s.toList))
  if word = "true" then some true else if word = "false" then some false else none

/-- The truth value or the integer that a text spells, or else the text. -/
def coerce (s : String) : Value :=
  match truthOf? s with
  | some b => .bool b
  | none =>
    match integer? s with
    | some i => .int i
    | none => .text s

end SqlBackend.Pool
