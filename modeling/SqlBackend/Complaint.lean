/-!
# Complaints about fields

Validating a record reports every field that is wrong, not only the first. A complaint names the
place, outermost field first, and what is the matter there.
-/

namespace SqlBackend

/-- What can be the matter with a field. -/
inductive Problem where
  | missing
  | unknownField
  | notText
  | notInteger
  | integerUnreadable
  | integerTooLong
  | integerHasFraction
  | notFinite
  | notPositive
  | negative
  | notTruthValue
  | truthValueUnreadable
  | notReal
  | realUnreadable
  | notMapping
  | frozen
  deriving DecidableEq, Repr, Inhabited

def Problem.name : Problem → String
  | .missing => "missing"
  | .unknownField => "extra_forbidden"
  | .notText => "string_type"
  | .notInteger => "int_type"
  | .integerUnreadable => "int_parsing"
  | .integerTooLong => "int_parsing_size"
  | .integerHasFraction => "int_from_float"
  | .notFinite => "finite_number"
  | .notPositive => "greater_than"
  | .negative => "greater_than_equal"
  | .notTruthValue => "bool_type"
  | .truthValueUnreadable => "bool_parsing"
  | .notReal => "float_type"
  | .realUnreadable => "float_parsing"
  | .notMapping => "dict_type"
  | .frozen => "frozen_instance"

/-- A place in a record and what is the matter there. -/
structure Complaint where
  location : List String
  problem : Problem
  deriving DecidableEq, Repr, Inhabited

/-- The order of places: name by name, a shorter place before its parts. -/
def Complaint.before : List String → List String → Bool
  | [], _ => true
  | _ :: _, [] => false
  | a :: as, b :: bs => if a = b then before as bs else decide (a < b)

/-- Complaints in the order of their places. -/
def Complaint.sort (complaints : List Complaint) : List Complaint :=
  complaints.mergeSort fun a b => Complaint.before a.location b.location

end SqlBackend
