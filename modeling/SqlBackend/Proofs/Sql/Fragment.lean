import SqlBackend.Dialect.Builtin
import SqlBackend.Proofs.Written

/-!
# Fragments asked for by name

A built-in dialect has the fragments of its engine under their names, and operands that pass their
checks and can be written come to the text of the fragment. Operands are looked at one after the other,
so the fault of a fragment is that of the first operand that has one.
-/

namespace SqlBackend

section

variable {α β : Type} {x : Except Fault α} {f : α → Except Fault β}

end

namespace Sql

theorem countNumeral_natCast (name : String) (n : Nat) :
    countNumeral name (.int n) =
      if n < 10 ^ 4300 then .ok n.repr else .error (.numeralTooLong none) := by
  rw [countNumeral, checkCount_natCast, ← writtenInteger_natCast]
  rfl

theorem checkPad_text {s : String} (h : s ≠ "") : checkPad (.text s) = .ok s := by
  simp [checkPad, h]

end Sql

namespace Engine

open SqlBackend.Sql

theorem map_text_eq_error_iff {outcome : Except Fault String} {fault : Fault} :
    outcome.map Value.text = .error fault ↔ outcome = .error fault := by
  cases outcome <;> simp [Except.map]

variable (engine : Engine)

theorem fragment_dialect (x : Fragment) (args : List Value) :
    engine.dialect.fragment x.name args = engine.fragment x args := by
  rw [Dialect.fragment, engine.engine_dialect, Fragment.ofName?_name]

theorem fragment_bitAnd (a b : String) :
    engine.dialect.fragment "bit_and" [.text a, .text b] = .ok (.text (engine.bitAnd a b)) := by
  refine (engine.fragment_dialect .bitAnd _).trans ?_
  rw [fragment, Value.written_text, Value.written_text]
  rfl

theorem fragment_bitAndNot (a b : String) :
    engine.dialect.fragment "bit_and_not" [.text a, .text b] =
      .ok (.text (engine.bitAndNot a b)) := by
  refine (engine.fragment_dialect .bitAndNot _).trans ?_
  rw [fragment, Value.written_text, Value.written_text]
  rfl

theorem fragment_lpad_eq (field width pad : Value) :
    engine.dialect.fragment "lpad" [field, width, pad] =
      (engine.paddedValue field width pad).map .text :=
  engine.fragment_dialect .lpad [field, width, pad]

/-- A padding whose operands are right is refused for its width only, and only if that cannot be
written. -/
theorem fragment_lpad_of_shown? {field : Value} {text : String} (hfield : field.shown? = some text)
    (width : Nat) {pad : String} (hpad : pad ≠ "") :
    engine.dialect.fragment "lpad" [field, .int width, .text pad] =
      if width < 10 ^ 4300 then .ok (.text (engine.lpad text width.repr pad))
      else .error (.numeralTooLong none) := by
  have hwritten : field.written = .ok text := Value.written_eq_ok_iff.mpr hfield
  have hcall : Sql.lpad field (.int width) (.text pad) =
      if width < 10 ^ 4300 then .ok (lpadCall text width.repr pad)
      else .error (.numeralTooLong none) := by
    rw [Sql.lpad, hwritten, countNumeral_natCast, checkPad_text hpad]
    split <;> rfl
  have hcases : lpadWithoutCall field (.int width) (.text pad) =
      if width < 10 ^ 4300 then .ok (lpadByCases text width.repr pad)
      else .error (.numeralTooLong none) := by
    rw [lpadWithoutCall, hwritten, countNumeral_natCast, checkPad_text hpad]
    split <;> rfl
  rw [fragment_lpad_eq]
  cases engine with
  | mysql | oracle =>
      rw [paddedValue, hcall]
      split <;> rfl
  | sqlite =>
      rw [paddedValue, hcases]
      split <;> rfl

theorem fragment_lpad (field : String) (width : Nat) {pad : String} (hpad : pad ≠ "") :
    engine.dialect.fragment "lpad" [.text field, .int width, .text pad] =
      if width < 10 ^ 4300 then .ok (.text (engine.lpad field width.repr pad))
      else .error (.numeralTooLong none) :=
  engine.fragment_lpad_of_shown? (Value.shown?_text field) width hpad

end Engine

end SqlBackend
