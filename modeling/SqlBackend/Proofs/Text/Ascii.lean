import SqlBackend.Numeric.Integer
import SqlBackend.Text.Lowercase

/-!
# Plain text

Host names in their usual form consist of small ASCII letters, digits, hyphens and dots. Lower-casing
leaves such a text alone, and a number that is written in base ten is such a text and is read back.
-/

namespace SqlBackend.Text

/-- A small ASCII letter. -/
def isAsciiLower (c : Char) : Bool := 0x61 ≤ c.toNat && c.toNat ≤ 0x7A

/-- A character of a plain host name. -/
def isHostChar (c : Char) : Bool := isAsciiLower c || isAsciiDigit c || c == '-' || c == '.'

theorem isHostChar_of_isAsciiDigit {c : Char} (h : isAsciiDigit c = true) : isHostChar c = true := by
  simp [isHostChar, h]

theorem toNat_of_isAsciiLower {c : Char} (h : isAsciiLower c = true) :
    0x61 ≤ c.toNat ∧ c.toNat ≤ 0x7A := by
  simpa [isAsciiLower] using h

theorem toNat_of_isHostChar {c : Char} (h : isHostChar c = true) :
    (0x61 ≤ c.toNat ∧ c.toNat ≤ 0x7A) ∨ (0x30 ≤ c.toNat ∧ c.toNat ≤ 0x39) ∨ c.toNat = 0x2D ∨
      c.toNat = 0x2E := by
  simp only [isHostChar, isAsciiLower, isAsciiDigit, Bool.or_eq_true, Bool.and_eq_true,
    decide_eq_true_eq, beq_iff_eq] at h
  rcases h with ((hlower | hdigit) | rfl) | rfl
  · exact .inl hlower
  · exact .inr (.inl hdigit)
  · exact .inr (.inr (.inl rfl))
  · exact .inr (.inr (.inr rfl))

/-- What is not made of host characters is none of them. -/
theorem ne_of_isHostChar {c separator : Char} (h : isHostChar c = true)
    (hseparator : isHostChar separator = false) : c ≠ separator := by
  rintro rfl
  rw [h] at hseparator
  cases hseparator

/-- Of the characters with a lower-case form of their own, only the capitals are in ASCII. -/
theorem first_of_mem_caseRuns :
    ∀ run ∈ caseRuns, (run.first = 0x41 ∧ run.last = 0x5A) ∨ 0x80 ≤ run.first := by
  decide +kernel

theorem lowerChar_of_not_covers {c : Char} (h : ∀ run ∈ caseRuns, ¬ run.covers c.toNat = true) :
    lowerChar c = c := by
  rw [lowerChar, List.find?_eq_none.mpr h]

theorem lowerChar_of_isHostChar {c : Char} (h : isHostChar c = true) : lowerChar c = c := by
  refine lowerChar_of_not_covers fun run hmem hcovers => ?_
  have hfirst := first_of_mem_caseRuns run hmem
  have hrange := toNat_of_isHostChar h
  simp only [CaseRun.covers, Bool.and_eq_true, decide_eq_true_eq] at hcovers
  omega

theorem head?_lowerChars {c : Char} (hdotted : c ≠ 'İ') (hsigma : c ≠ 'Σ') (rest : List Char) :
    (lowerChars (c :: rest)).head? = some (lowerChar c) := by
  rw [lowerChars, lowerAfter_cons, lowerIn, if_neg hdotted, if_neg hsigma]
  rfl

theorem lowerAfter_of_isHostChar {cs : List Char} (h : ∀ c ∈ cs, isHostChar c = true)
    (before : List Char) : lowerAfter before cs = cs := by
  induction cs generalizing before with
  | nil => rfl
  | cons c rest ih =>
      have hc : isHostChar c = true := h c List.mem_cons_self
      have hdotted : c ≠ 'İ' := ne_of_isHostChar hc (by decide)
      have hsigma : c ≠ 'Σ' := ne_of_isHostChar hc (by decide)
      rw [lowerAfter_cons, ih fun d hd => h d (List.mem_cons_of_mem c hd), lowerIn, if_neg hdotted,
        if_neg hsigma, lowerChar_of_isHostChar hc]
      rfl

/-- A plain host name is in lower case. -/
theorem lowerChars_of_isHostChar {cs : List Char} (h : ∀ c ∈ cs, isHostChar c = true) :
    lowerChars cs = cs :=
  lowerAfter_of_isHostChar h []

theorem isAsciiDigit_of_mem_repr {n : Nat} {c : Char} (h : c ∈ n.repr.toList) :
    isAsciiDigit c = true := by
  rw [Nat.toList_repr] at h
  have hdigit := Nat.isDigit_of_mem_toDigits (by decide) (by decide) h
  simp only [Char.isDigit, Bool.and_eq_true, decide_eq_true_eq, ge_iff_le,
    UInt32.le_iff_toNat_le] at hdigit
  simp only [isAsciiDigit, Bool.and_eq_true, decide_eq_true_eq]
  exact hdigit

/-- What is written in base ten is read back. -/
theorem ofAsciiDigits_repr (n : Nat) : ofAsciiDigits n.repr.toList = n := by
  have hread : ofAsciiDigits n.repr.toList = Nat.ofDigitChars 10 n.repr.toList 0 := by
    rw [ofAsciiDigits, ofDigitValues, List.foldl_map]
    rfl
  rw [hread, Nat.toList_repr, Nat.ofDigitChars_toDigits (by decide) (by decide)]

end SqlBackend.Text
