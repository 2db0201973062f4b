import SqlBackend.Dialect.Basic

/-!
# Dialects by description

A dialect for a backend that is none of the engines is described by what sets it apart. Capabilities
and kinds of errors are given by their names. What is not said stays empty.
-/

namespace SqlBackend

/-- What is said about a dialect. -/
structure DialectDescription where
  kind : String := "Bare"
  name : String := ""
  displayName : String := ""
  schemes : List String := []
  aliases : List String := []
  capabilities : List (String × Bool) := []
  errorCodes : List (String × Code) := []
  driver : String := ""
  defaultPort : Option Int := none
  supportsStatsCallback : Bool := false
  propertyPrefix : String := ""
  defaultProperties : List (String × String) := []
  databaseExistsSql : String := ""
  flushStatements : List String := []

namespace DialectDescription

/-- Pairs whose first parts name members of an enumeration. -/
def named {α β : Type} (ofName? : String → Option α) (unknown : String → Fault)
    (pairs : List (String × β)) : Except Fault (List (α × β)) :=
  pairs.mapM fun pair => do
    let member ← (unknown pair.1).unlessSome (ofName? pair.1)
    return (member, pair.2)

def dialect (description : DialectDescription) : Except Fault Dialect := do
  let capabilities ← named Capability.ofName? .unknownCapability description.capabilities
  let errorCodes ← named ErrorKind.ofName? .unknownErrorKind description.errorCodes
  return {
    kind := description.kind
    name := description.name
    displayName := description.displayName
    schemes := description.schemes
    aliases := description.aliases
    capabilities := .ofPairs capabilities
    errorCodes := .ofPairs errorCodes
    driver := description.driver
    defaultPort := description.defaultPort
    supportsStatsCallback := description.supportsStatsCallback
    propertyPrefix := description.propertyPrefix
    defaultProperties := .ofPairs description.defaultProperties
    databaseExistsSql := description.databaseExistsSql
    flushStatements := description.flushStatements }

end DialectDescription

end SqlBackend
