import Mathlib.Tactic.Ring
import SqlBackend.Numeric.Binary64

/-!
# Integers as floating-point numbers

An integer is rounded to a mantissa of 53 binary digits. It has a floating-point number exactly if its
magnitude is below `overflowThreshold`, the midpoint between the greatest finite number and the next
power of two: from there on the mantissa is rounded up to 54 digits, at the greatest exponent. The
number of an integer has its sign, and only that of zero is zero.
-/

namespace SqlBackend.Numeric

section Rounding

variable {num den m : Nat}

/-- An even number is reached by rounding from half below it on. -/
theorem le_roundHalfEven_iff (hm : m % 2 = 0) (hden : 0 < den) :
    m ≤ roundHalfEven num den ↔ 2 * (m * den) ≤ 2 * num + den := by
  have hnum : den * (num / den) + num % den = num := Nat.div_add_mod num den
  have hr : num % den < den := Nat.mod_lt num hden
  simp only [roundHalfEven]
  generalize num / den = q at *
  generalize num % den = r at *
  rw [Nat.mul_comm] at hnum
  obtain hle | rfl | hlt : m ≤ q ∨ m = q + 1 ∨ q + 2 ≤ m := by omega
  · have hscaled : m * den ≤ q * den := Nat.mul_le_mul_right den hle
    split_ifs <;> omega
  · rw [Nat.add_mul, Nat.one_mul]
    split_ifs <;> omega
  · have hscaled : (q + 2) * den ≤ m * den := Nat.mul_le_mul_right den hlt
    rw [Nat.add_mul] at hscaled
    split_ifs <;> omega

theorem roundHalfEven_le (num den : Nat) : roundHalfEven num den ≤ num / den + 1 := by
  simp only [roundHalfEven]
  split_ifs <;> omega

end Rounding

namespace Binary64

/-- The least magnitude of an integer that is beyond the range of floating-point numbers. -/
def overflowThreshold : Nat := 2 ^ 1024 - 2 ^ 970

theorem hiddenBit_eq : hiddenBit = 2 ^ 52 := rfl

theorem scaleDown_of_log2 {n k : Nat} (h : n.log2 = 52 + k) :
    scaleDown 2 n 1 (n.log2 - 52) = (n, 2 ^ k) := by
  have hexponent : (n.log2 : Int) - 52 = k := by omega
  simp [scaleDown, hexponent]

theorem scaleDown_of_log2_lt {n k : Nat} (h : n.log2 + (k + 1) = 52) :
    scaleDown 2 n 1 (n.log2 - 52) = (n * 2 ^ (k + 1), 1) := by
  have hexponent : (n.log2 : Int) - 52 = -(k + 1 : Nat) := by omega
  rw [scaleDown, hexponent, if_neg (by omega), Int.neg_neg, Int.toNat_natCast]
  rfl

/-- An integer scaled to its grid has a whole part of 53 binary digits. -/
theorem scaleDown_log2 {n : Nat} (hn : n ≠ 0) :
    let scaled := scaleDown 2 n 1 (n.log2 - 52)
    0 < scaled.2 ∧ hiddenBit * scaled.2 ≤ scaled.1 ∧ scaled.1 < 2 * hiddenBit * scaled.2 := by
  have hlow : 2 ^ n.log2 ≤ n := Nat.log2_self_le hn
  have hhigh : n < 2 ^ (n.log2 + 1) := Nat.lt_log2_self
  obtain ⟨k, hk⟩ | ⟨k, hk⟩ :
      (∃ k : Nat, n.log2 = 52 + k) ∨ ∃ k : Nat, n.log2 + (k + 1) = 52 := by
    by_cases h : 52 ≤ n.log2
    · exact .inl (Nat.exists_eq_add_of_le h)
    · exact .inr ⟨51 - n.log2, by omega⟩
  · rw [scaleDown_of_log2 hk]
    rw [hk, Nat.pow_succ, Nat.pow_add] at hhigh
    rw [hk, Nat.pow_add] at hlow
    refine ⟨Nat.two_pow_pos k, hlow, ?_⟩
    rw [hiddenBit_eq]
    omega
  · rw [scaleDown_of_log2_lt hk, hiddenBit_eq]
    have hlow' := Nat.mul_le_mul_right (2 ^ (k + 1)) hlow
    have hhigh' := (Nat.mul_lt_mul_right (Nat.two_pow_pos (k + 1))).mpr hhigh
    rw [← Nat.pow_add, hk] at hlow'
    rw [← Nat.pow_add, Nat.add_right_comm, hk] at hhigh'
    simp only
    omega

theorem gridExponent_one {n : Nat} (hn : n ≠ 0) : gridExponent n 1 = n.log2 - 52 := by
  obtain ⟨-, hlow, -⟩ := scaleDown_log2 hn
  have hone : (n.log2 : Int) - (1 : Nat).log2 - 52 = n.log2 - 52 := by
    rw [show (1 : Nat).log2 = 0 by decide]
    omega
  rw [gridExponent, hone, if_neg (by rw [Nat.mul_comm]; omega), minExponent]
  omega

/-- The mantissa of an integer, before a carry into the 54th binary digit. -/
def mantissa (n : Nat) : Nat :=
  let scaled := scaleDown 2 n 1 (n.log2 - 52)
  roundHalfEven scaled.1 scaled.2

theorem hiddenBit_le_mantissa {n : Nat} (hn : n ≠ 0) : hiddenBit ≤ mantissa n := by
  obtain ⟨hden, hlow, -⟩ := scaleDown_log2 hn
  rw [mantissa, le_roundHalfEven_iff (by decide) hden]
  omega

theorem mantissa_le {n : Nat} (hn : n ≠ 0) : mantissa n ≤ 2 * hiddenBit := by
  obtain ⟨hden, -, hhigh⟩ := scaleDown_log2 hn
  have hquotient := (Nat.div_lt_iff_lt_mul hden).mpr hhigh
  have hround := roundHalfEven_le (scaleDown 2 n 1 (n.log2 - 52)).1 (scaleDown 2 n 1 (n.log2 - 52)).2
  rw [mantissa]
  omega

/-- Rounding carries into the 54th binary digit from the midpoint below the next power of two on. -/
theorem mantissa_eq_iff {n k : Nat} (h : n.log2 = 53 + k) :
    mantissa n = 2 * hiddenBit ↔ 2 ^ 54 * 2 ^ k ≤ n + 2 ^ k := by
  have hn : n ≠ 0 := by
    rintro rfl
    rw [Nat.log2_zero] at h
    omega
  have hlog : n.log2 = 52 + (k + 1) := by omega
  have hreached : mantissa n = 2 * hiddenBit ↔ 2 * hiddenBit ≤ mantissa n := by
    have hle := mantissa_le hn
    omega
  rw [hreached, mantissa, scaleDown_of_log2 hlog]
  rw [le_roundHalfEven_iff (by decide) (Nat.two_pow_pos (k + 1)), Nat.pow_succ, hiddenBit_eq]
  omega

/-- An integer gets to an exponent by its magnitude or by the carry. -/
theorem midpoint_le_iff {n : Nat} (hn : n ≠ 0) (k : Nat) :
    2 ^ (54 + k) - 2 ^ k ≤ n ↔
      53 + k < n.log2 ∨ n.log2 = 53 + k ∧ mantissa n = 2 * hiddenBit := by
  have hlast : 53 + k ≤ n.log2 ↔ 2 ^ 53 * 2 ^ k ≤ n := by
    rw [Nat.le_log2 hn, Nat.pow_add]
  have hbeyond : 54 + k ≤ n.log2 ↔ 2 ^ 54 * 2 ^ k ≤ n := by
    rw [Nat.le_log2 hn, Nat.pow_add]
  have hcarry (hlog : n.log2 = 53 + k) := mantissa_eq_iff hlog
  rw [Nat.pow_add]
  omega

theorem overflowThreshold_le_iff {n : Nat} (hn : n ≠ 0) :
    overflowThreshold ≤ n ↔ 1023 < n.log2 ∨ n.log2 = 1023 ∧ mantissa n = 2 * hiddenBit := by
  simpa only [overflowThreshold, Nat.reduceAdd] using midpoint_le_iff hn 970

theorem ofRatio_of_mantissa_eq (negative : Bool) {n : Nat} (hn : n ≠ 0)
    (hcarry : mantissa n = 2 * hiddenBit) :
    ofRatio negative n 1 = if maxExponent < (n.log2 : Int) - 52 + 1 then .infinite negative
      else .finite negative hiddenBit (n.log2 - 52 + 1) := by
  rw [mantissa] at hcarry
  rw [ofRatio, if_neg hn, gridExponent_one hn]
  simp only [hcarry, if_true]

theorem ofRatio_of_mantissa_ne (negative : Bool) {n : Nat} (hn : n ≠ 0)
    (hcarry : mantissa n ≠ 2 * hiddenBit) :
    ofRatio negative n 1 = if maxExponent < (n.log2 : Int) - 52 then .infinite negative
      else .finite negative (mantissa n) (n.log2 - 52) := by
  rw [mantissa] at hcarry
  rw [ofRatio, if_neg hn, gridExponent_one hn]
  simp only [if_neg hcarry]
  rfl

/-- A positive integer becomes a finite number that is not zero, or an infinite one. -/
theorem ofRatio_one (negative : Bool) {n : Nat} (hn : n ≠ 0) :
    ∃ m e, m ≠ 0 ∧ ofRatio negative n 1 =
      if overflowThreshold ≤ n then .infinite negative else .finite negative m e := by
  by_cases hcarry : mantissa n = 2 * hiddenBit
  · have hbeyond : overflowThreshold ≤ n ↔ maxExponent < n.log2 - 52 + 1 := by
      rw [overflowThreshold_le_iff hn, maxExponent]
      omega
    refine ⟨hiddenBit, n.log2 - 52 + 1, by decide, ?_⟩
    rw [ofRatio_of_mantissa_eq negative hn hcarry]
    simp only [hbeyond]
  · have hbeyond : overflowThreshold ≤ n ↔ maxExponent < n.log2 - 52 := by
      rw [overflowThreshold_le_iff hn, maxExponent]
      omega
    have hnormal := hiddenBit_le_mantissa hn
    refine ⟨mantissa n, n.log2 - 52, ?_, ?_⟩
    · rw [hiddenBit] at hnormal
      omega
    · rw [ofRatio_of_mantissa_ne negative hn hcarry]
      simp only [hbeyond]

theorem ofInt?_eq_none_iff (i : Int) : ofInt? i = none ↔ overflowThreshold ≤ i.natAbs := by
  by_cases hi : i = 0
  · rw [hi]
    decide +kernel
  · obtain ⟨m, e, -, hrounded⟩ := ofRatio_one (i < 0) (Int.natAbs_ne_zero.mpr hi)
    rw [ofInt?, hrounded]
    split_ifs with h <;> simp [h]

/-- The number of an integer is finite and has its sign. -/
theorem sign_of_ofInt? {i : Int} {x : Binary64} (h : ofInt? i = some x) :
    x.isFinite = true ∧ x.isNegative = decide (i < 0) := by
  by_cases hi : i = 0
  · subst hi
    cases h
    decide
  · obtain ⟨m, e, hm, hrounded⟩ := ofRatio_one (i < 0) (Int.natAbs_ne_zero.mpr hi)
    rw [ofInt?, hrounded] at h
    split_ifs at h with hbeyond
    cases h
    simp [isFinite, isNegative, hm]

end Binary64

end SqlBackend.Numeric
