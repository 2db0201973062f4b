import SqlBackend.Pool.Size
import SqlBackend.Proofs.Action.Trace
import SqlBackend.Proofs.Text.Digit
import SqlBackend.Proofs.Text.Trim

/-!
# What the size of a pool depends on

The size that a pool gets, and what is written down about it, is determined by the value that asks for
it. Only a row of digits that is too long ends the search, and warnings are all that it leaves behind.
-/

namespace SqlBackend.Pool

open SqlBackend.Action SqlBackend.Numeric SqlBackend.Text

namespace SizeRequest

/-- The size that a request comes to, none where the default stands. -/
def outcome : SizeRequest → Except Fault (Option Int)
  | .tooLong digits => .error (.numeralTooLong digits)
  | .size n => .ok (some n)
  | _ => .ok none

/-- The warnings about a value that asks so. -/
def warnings (given : Value) (default : String) : SizeRequest → List Record
  | .unreadable => [unreadableSize given default]
  | .zero => [sizeNotPositive default]
  | _ => []

end SizeRequest

/-- A text is a row of ASCII digits with white space around it. -/
structure IsDigitRow (s : String) : Prop where
  ne_nil : trim isBlank s.toList ≠ []
  digits : ∀ c ∈ trim isBlank s.toList, isAsciiDigit c = true

/-- A text spells a positive number in a row of digits. -/
structure SpellsSize (s : String) (n : Nat) : Prop extends IsDigitRow s where
  value : ofAsciiDigits (trim isBlank s.toList) = n
  positive : 0 < n

/-- A row of more digits than can be read, zeros in front counted. -/
structure IsOverlong (s : String) : Prop where
  digits : ∀ c ∈ trim isBlank s.toList, isAsciiDigit c = true
  long : maxDigits < (trim isBlank s.toList).length

variable {s : String}

theorem IsOverlong.isDigitRow (h : IsOverlong s) : IsDigitRow s where
  ne_nil hnil := absurd h.long (by simp [hnil])
  digits := h.digits

/-- What is no row of digits cannot be read, and a row is judged by its length and its value. -/
theorem ofValue_of_isDigitRow (h : IsDigitRow s) :
    SizeRequest.ofValue (.text s) =
      if maxDigits < (trim isBlank s.toList).length then .tooLong (trim isBlank s.toList).length
      else if ofAsciiDigits (trim isBlank s.toList) = 0 then .zero
      else .size (ofAsciiDigits (trim isBlank s.toList)) := by
  have hempty : (trim isBlank s.toList).isEmpty = false := List.isEmpty_eq_false_iff.mpr h.ne_nil
  have hall : (trim isBlank s.toList).all isAsciiDigit = true := List.all_eq_true.mpr h.digits
  rw [SizeRequest.ofValue]
  · simp only [sizeDigits, hempty, hall]
    rfl
  · simp

theorem ofValue_of_not_isDigitRow (h : ¬ IsDigitRow s) :
    SizeRequest.ofValue (.text s) = .unreadable := by
  have hdigits : ((trim isBlank s.toList).isEmpty ||
      !(trim isBlank s.toList).all isAsciiDigit) = true := by
    cases hempty : (trim isBlank s.toList).isEmpty with
    | true => rfl
    | false =>
        cases hall : (trim isBlank s.toList).all isAsciiDigit with
        | true =>
            exact absurd ⟨List.isEmpty_eq_false_iff.mp hempty, List.all_eq_true.mp hall⟩ h
        | false => rfl
  rw [SizeRequest.ofValue]
  · exact if_pos hdigits
  · simp

theorem ofValue_of_isOverlong (h : IsOverlong s) :
    SizeRequest.ofValue (.text s) = .tooLong (trim isBlank s.toList).length := by
  rw [ofValue_of_isDigitRow h.isDigitRow, if_pos h.long]

theorem ofValue_of_spellsSize {n : Nat} (h : SpellsSize s n) (hshort : ¬ IsOverlong s) :
    SizeRequest.ofValue (.text s) = .size n := by
  have hlength : ¬ maxDigits < (trim isBlank s.toList).length := fun hlong =>
    hshort ⟨h.digits, hlong⟩
  rw [ofValue_of_isDigitRow h.toIsDigitRow, if_neg hlength, h.value,
    if_neg (Nat.ne_of_gt h.positive)]

theorem ofValue_of_not_spellsSize (h : ∀ n, ¬ SpellsSize s n) (hshort : ¬ IsOverlong s) :
    SizeRequest.ofValue (.text s) = .unreadable ∨ SizeRequest.ofValue (.text s) = .zero := by
  by_cases hrow : IsDigitRow s
  · have hlength : ¬ maxDigits < (trim isBlank s.toList).length := fun hlong =>
      hshort ⟨hrow.digits, hlong⟩
    have hzero : ofAsciiDigits (trim isBlank s.toList) = 0 :=
      Nat.eq_zero_of_not_pos fun hpositive => h _ ⟨hrow, rfl, hpositive⟩
    exact .inr (by rw [ofValue_of_isDigitRow hrow, if_neg hlength, if_pos hzero])
  · exact .inl (ofValue_of_not_isDigitRow hrow)

/-- There is nothing to trim from digits. -/
theorem trim_ofList_digits {digits : List Char} (h : ∀ c ∈ digits, isAsciiDigit c = true) :
    trim isBlank (String.ofList digits).toList = digits := by
  have hblank : ∀ c ∈ digits, isBlank c = false := fun c hc => isBlank_of_isAsciiDigit (h c hc)
  rw [String.toList_ofList, trim_eq_self hblank]

/-- A row of too many digits asks for what cannot be read. -/
theorem ofValue_eq_tooLong {digits : List Char} (hdigits : ∀ c ∈ digits, isAsciiDigit c = true)
    (hlong : maxDigits < digits.length) :
    SizeRequest.ofValue (.text (String.ofList digits)) = .tooLong digits.length := by
  have hrow := trim_ofList_digits hdigits
  have hoverlong : IsOverlong (String.ofList digits) := ⟨by rwa [hrow], by rwa [hrow]⟩
  rw [ofValue_of_isOverlong hoverlong, hrow]

/-- The size of a pool for a value that asks for it. -/
def sizeFor (given : Value) (default : Int) : Except Fault Int :=
  (SizeRequest.ofValue given).outcome.map fun size => size.getD default

/-- The warnings about a value that asks for a size. -/
def sizeWarnings (given : Value) (default : Int) : List Record :=
  (SizeRequest.ofValue given).warnings given (decimal default)

theorem level_of_mem_sizeWarnings {given : Value} {default : Int} {r : Record}
    (h : r ∈ sizeWarnings given default) : r.level = .warning := by
  rw [sizeWarnings] at h
  cases hrequest : SizeRequest.ofValue given with
  | unreadable =>
      rw [hrequest, SizeRequest.warnings, List.mem_singleton] at h
      rw [h]
      rfl
  | zero =>
      rw [hrequest, SizeRequest.warnings, List.mem_singleton] at h
      rw [h]
      rfl
  | nothing | tooLong | size =>
      rw [hrequest] at h
      cases h

theorem run_requestedSize (given : Value) (default : String) (script : Script) (world : World) :
    run (requestedSize given (.ok default)) script world =
      ((SizeRequest.ofValue given).outcome,
        world.extend [] ((SizeRequest.ofValue given).warnings given default)) := by
  rw [requestedSize]
  cases SizeRequest.ofValue given with
  | unreadable =>
      show (Except.ok none, world.record (unreadableSize given default)) = _
      rw [World.record_eq_extend]
      rfl
  | zero =>
      show (Except.ok none, world.record (sizeNotPositive default)) = _
      rw [World.record_eq_extend]
      rfl
  | nothing | tooLong | size =>
      show _ = (_, world.extend [] [])
      rw [World.extend_nil]
      rfl

theorem run_resolveSize (given : Value) (default : Int) (script : Script) (world : World) :
    run (resolveSize given default) script world =
      (sizeFor given default, world.extend [] (sizeWarnings given default)) := by
  have hrequest := run_requestedSize given (decimal default) script world
  rw [resolveSize, run_bind, hrequest, sizeFor, sizeWarnings]
  cases (SizeRequest.ofValue given).outcome with
  | error fault => rfl
  | ok size => rfl

end SqlBackend.Pool
