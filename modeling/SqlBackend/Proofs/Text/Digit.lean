import Mathlib.Data.List.Induction
import Mathlib.Data.Nat.Digits.Defs
import SqlBackend.Proofs.Text.Ascii
import SqlBackend.Text.Blank

/-!
# Digits of every script

`IsDigit c d` says that `c` stands at the place `d` in one of the runs of ten digits. The runs lie apart
from each other, from the blanks and from the letters that have a case, so a digit has one value, is
never blank and has no other form in lower case.
-/

namespace SqlBackend.Text

/-- In one of the scripts, `c` is the digit of the value `d`. -/
def IsDigit (c : Char) (d : Nat) : Prop := ∃ start ∈ digitZeros, c.toNat = start + d ∧ d < 10

theorem digitZeros_apart : ∀ start ∈ digitZeros, ∀ other ∈ digitZeros,
    start = other ∨ start + 10 ≤ other ∨ other + 10 ≤ start := by
  decide +kernel

/-- The digits of ASCII come first, and all others are far behind. -/
theorem eq_or_le_of_mem_digitZeros : ∀ start ∈ digitZeros, start = 0x30 ∨ 0x660 ≤ start := by
  decide +kernel

variable {c : Char} {d : Nat}

theorem digitValue?_eq_some_iff : digitValue? c = some d ↔ IsDigit c d := by
  constructor
  · intro h
    obtain ⟨start, hfind, rfl⟩ := Option.map_eq_some_iff.mp h
    have hstart := List.find?_some hfind
    simp only [Bool.and_eq_true, decide_eq_true_eq] at hstart
    exact ⟨start, List.mem_of_find?_eq_some hfind, by omega⟩
  · rintro ⟨start, hmem, hc, hd⟩
    have hsome : (digitZeros.find? fun first => first ≤ c.toNat && c.toNat < first + 10).isSome := by
      rw [List.find?_isSome]
      refine ⟨start, hmem, ?_⟩
      simp only [Bool.and_eq_true, decide_eq_true_eq]
      omega
    obtain ⟨other, hfind⟩ := Option.isSome_iff_exists.mp hsome
    have hother := List.find?_some hfind
    simp only [Bool.and_eq_true, decide_eq_true_eq] at hother
    have hapart := digitZeros_apart start hmem other (List.mem_of_find?_eq_some hfind)
    rw [digitValue?, hfind, Option.map_some, Option.some.injEq]
    omega

theorem IsDigit.toNat (h : IsDigit c d) :
    (0x30 ≤ c.toNat ∧ c.toNat ≤ 0x39) ∨ 0x660 ≤ c.toNat := by
  obtain ⟨start, hmem, hc, hd⟩ := h
  have hplace := eq_or_le_of_mem_digitZeros start hmem
  omega

theorem IsDigit.ne {other : Char} (h : IsDigit c d)
    (hother : ¬ ((0x30 ≤ other.toNat ∧ other.toNat ≤ 0x39) ∨ 0x660 ≤ other.toNat)) : c ≠ other := by
  rintro rfl
  exact hother h.toNat

theorem isDigit_of_isAsciiDigit (h : isAsciiDigit c = true) : IsDigit c (c.toNat - 0x30) := by
  simp only [isAsciiDigit, Bool.and_eq_true, decide_eq_true_eq] at h
  exact ⟨0x30, by decide, by omega⟩

theorem whiteSpace_apart : ∀ range ∈ (0x1C, 0x1F) :: whiteSpace, ∀ start ∈ digitZeros,
    range.2 < start ∨ start + 10 ≤ range.1 := by
  decide +kernel

theorem IsDigit.isBlank_eq_false (h : IsDigit c d) : isBlank c = false := by
  obtain ⟨start, hmem, hc, hd⟩ := h
  rw [isBlank, Ranges.has, List.any_eq_false]
  intro range hrange
  have hapart := whiteSpace_apart range hrange start hmem
  simp only [Bool.and_eq_true, decide_eq_true_eq]
  omega

theorem isBlank_of_isAsciiDigit (h : isAsciiDigit c = true) : isBlank c = false :=
  (isDigit_of_isAsciiDigit h).isBlank_eq_false

theorem caseRuns_apart : ∀ run ∈ caseRuns, ∀ start ∈ digitZeros,
    run.last < start ∨ start + 10 ≤ run.first := by
  decide +kernel

/-- Digits have no case. -/
theorem IsDigit.lowerChar_eq (h : IsDigit c d) : lowerChar c = c := by
  obtain ⟨start, hmem, hc, hd⟩ := h
  refine lowerChar_of_not_covers fun run hrun hcovers => ?_
  have hapart := caseRuns_apart run hrun start hmem
  simp only [CaseRun.covers, Bool.and_eq_true, decide_eq_true_eq] at hcovers
  omega

/-- The value of a row of digits, the last of them counting ones. -/
theorem ofDigitValues_eq_ofDigits (ds : List Nat) : ofDigitValues ds = Nat.ofDigits 10 ds.reverse := by
  induction ds using List.reverseRecOn with
  | nil => rfl
  | append_singleton ds d ih =>
      rw [ofDigitValues_append_singleton, List.reverse_concat, Nat.ofDigits_cons, ih, Nat.add_comm]

end SqlBackend.Text
