import SqlBackend.Proofs.Connection.Arguments
import SqlBackend.Proofs.Connection.Target
import SqlBackend.Text.Lowercase

/-!
# Redacted credentials

To redact is to put the empty text in place of a credential, in whatever case its name is. What is
left equal by this differs in the values of credentials only. The two readings of a credential differ:
`isCredential` goes by the exact name and decides how a property becomes an argument, `hides` goes by
the name in lower case and decides what is shown of it. Arguments keep the names of the properties, so
whatever is made of a hidden property is hidden again, whether it was coerced or not.
-/

namespace SqlBackend

open SqlBackend.Text

namespace Pool

/-- Whether a name, in whatever case it is, is that of a credential. -/
def hides (name : String) : Bool := isCredential (lower name)

/-- A value, or the empty text in place of a credential. -/
def redactValue (name : String) (value : Value) : Value := if hides name then .text "" else value

def redactText (name s : String) : String := if hides name then "" else s

theorem redactValue_of_hides {name : String} (h : hides name = true) (value : Value) :
    redactValue name value = .text "" := if_pos h

theorem redactValue_of_not_hides {name : String} (h : hides name = false) (value : Value) :
    redactValue name value = value := by
  rw [redactValue, h]
  rfl

theorem shown_redactValue (name : String) (value : Value) :
    (redactValue name value).shown = redactText name value.shown := by
  rw [redactValue, redactText]
  cases hides name with
  | true => exact Value.shown_text ""
  | false => rfl

/-- What a property becomes shows no more of it than the property. -/
theorem redactValue_argumentOf (name s : String) :
    redactValue name (argumentOf name (redactText name s)) =
      redactValue name (argumentOf name s) := by
  cases h : hides name with
  | true => rw [redactValue_of_hides h, redactValue_of_hides h]
  | false => rw [redactText, h, if_neg Bool.false_ne_true]

theorem argumentsOf_map (f : String → String → String) (entries : List (String × String)) :
    argumentsOf (entries.map fun entry => (entry.1, f entry.1 entry.2)) =
      (entries.filter fun entry => entry.1 ≠ sizeProperty).map fun entry =>
        (entry.1, argumentOf entry.1 (f entry.1 entry.2)) := by
  rw [argumentsOf, List.filter_map, List.map_map]
  rfl

end Pool

open SqlBackend.Pool

namespace PoolConfig

/-- A configuration without the values of its credentials. -/
def redacted (c : PoolConfig) : PoolConfig :=
  { c with properties := c.properties.mapValues redactText }

end PoolConfig

namespace Connection

/-- Arguments without the values of credentials. -/
def redactArguments : Arguments → Arguments := mapArguments redactValue

theorem redactArguments_redacted (c : PoolConfig) :
    redactArguments c.redacted.arguments = redactArguments c.arguments := by
  show mapArguments redactValue (argumentsOf (c.properties.entries.map fun entry =>
    (entry.1, redactText entry.1 entry.2))) =
      mapArguments redactValue (argumentsOf c.properties.entries)
  rw [argumentsOf_map, argumentsOf, mapArguments, mapArguments, List.map_map, List.map_map]
  apply List.map_congr_left
  intro entry _
  exact congrArg (Prod.mk entry.1) (redactValue_argumentOf entry.1 entry.2)

theorem redactArguments_congr {c e : PoolConfig} (h : c.redacted = e.redacted) :
    redactArguments c.arguments = redactArguments e.arguments := by
  rw [← redactArguments_redacted, h, redactArguments_redacted]

theorem map_redact_joinArguments {properties others : Arguments}
    (h : redactArguments properties = redactArguments others) (own : Arguments) :
    (joinArguments own properties).map redactArguments =
      (joinArguments own others).map redactArguments := by
  have hjoin (some : Arguments) : (joinArguments own some).map redactArguments =
      joinArguments (redactArguments own) (redactArguments some) :=
    (joinArguments_mapArguments redactValue own some).symm
  rw [hjoin, hjoin, h]

/-- Leaving the credentials out and redacting the rest can be done in either order. -/
theorem redactArguments_filter (arguments : Arguments) :
    redactArguments (arguments.filter fun argument => !isCredential argument.1) =
      (redactArguments arguments).filter fun argument => !isCredential argument.1 := by
  rw [redactArguments, mapArguments, mapArguments, List.filter_map]
  rfl

end Connection

namespace Target

open SqlBackend.Connection

/-- A target without the values of credentials. -/
def redacted : Target → Target
  | .unnamed => .unnamed
  | .mysql arguments => .mysql (redactArguments arguments)
  | .oracle arguments => .oracle (redactArguments arguments)
  | .sqlite path arguments => .sqlite path (redactArguments arguments)
  | .address url => .address url

/-- The named arguments that a target consists of. -/
def arguments : Target → Arguments
  | .mysql arguments => arguments
  | .oracle arguments => arguments
  | .sqlite _ arguments => arguments
  | _ => []

end Target

namespace Call

/-- A call without the values of credentials. -/
def redacted : Call → Call
  | .connect target => .connect target.redacted
  | c => c

end Call

namespace World

/-- What has been done, without the values of credentials. -/
def redacted (w : World) : World := { w with calls := w.calls.map Call.redacted }

theorem redacted_extend (w : World) (calls : List Call) (records : List Record) :
    (w.extend calls records).redacted = w.redacted.extend (calls.map Call.redacted) records := by
  simp [redacted, extend]

end World

end SqlBackend
