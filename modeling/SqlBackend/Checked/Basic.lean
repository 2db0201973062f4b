import SqlBackend.Fault

/-!
# Checking records

A record is checked field by field, and the result is the record or the complaints about all its
fields, never about the first wrong one only. `Checked` is that result; combining two of them keeps
the complaints of both.
-/

namespace SqlBackend

/-- A checked value, or all that is the matter with it. -/
inductive Checked (α : Type) where
  | valid (a : α)
  | invalid (complaints : List Complaint)
  deriving Repr

namespace Checked

variable {α β : Type}

def complaints : Checked α → List Complaint
  | valid _ => []
  | invalid complaints => complaints

/-- Applies a checked function to a checked value and keeps the complaints about both. -/
def apply : Checked (α → β) → Checked α → Checked β
  | valid f, valid a => valid (f a)
  | f, a => invalid (f.complaints ++ a.complaints)

instance : Applicative Checked where
  pure := valid
  seq f a := apply f (a ())

/-- The value of a field that one problem may be with, under its name. -/
def ofField (name : String) : Except Problem α → Checked α
  | .ok a => valid a
  | .error problem => invalid [⟨[name], problem⟩]

/-- The value of a field that must be there. -/
def required (fields : List (String × Value)) (name : String)
    (rule : Value → Except Problem α) : Checked α :=
  match fields.lookup name with
  | none => invalid [⟨[name], .missing⟩]
  | some value => ofField name (rule value)

/-- The value of a field, or its default when the field is not there. -/
def optional (fields : List (String × Value)) (name : String) (default : α)
    (rule : Value → Except Problem α) : Checked α :=
  match fields.lookup name with
  | none => valid default
  | some value => ofField name (rule value)

/-- Complaints about what must not be there, beside a value. -/
def withComplaints (complaints : List Complaint) (a : Checked α) : Checked α :=
  match complaints with
  | [] => a
  | _ :: _ => invalid (a.complaints ++ complaints)

/-- The value, or the rejection of the record with the complaints in order. -/
def toExcept : Checked α → Except Fault α
  | valid a => .ok a
  | invalid complaints => .error (.rejected (Complaint.sort complaints))

@[simp] theorem toExcept_valid (a : α) : (valid a).toExcept = .ok a := rfl

@[simp] theorem toExcept_invalid (complaints : List Complaint) :
    (invalid complaints : Checked α).toExcept = .error (.rejected (Complaint.sort complaints)) :=
  rfl

end Checked

end SqlBackend
