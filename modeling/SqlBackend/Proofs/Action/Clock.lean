import Mathlib.Algebra.Order.Field.Rat
import Mathlib.Tactic.NormNum
import SqlBackend.Action.Basic

/-!
# The waits that a clock takes

The clock of the platform takes a wait exactly if its nanoseconds fit in 64 bits with a sign,
`Value.FitsCounter`.
-/

namespace SqlBackend

open SqlBackend.Numeric

/-- A span of time whose nanoseconds fit in 64 bits with a sign. Those of a floating-point number are
rounded to 53 binary digits first, up to the bound if they are no less than half a step below it. -/
def Value.FitsCounter : Value → Prop
  | .int i => i.natAbs * 10 ^ 9 < 2 ^ 63
  | .float (.finite _ mantissa exponent) =>
    (mantissa : ℚ) * 2 ^ exponent * 10 ^ 9 < 2 ^ 63 - 2 ^ 9
  | .float _ => False
  | _ => True

namespace Numeric.Binary64

/-- The quotient of a finite number is its magnitude. -/
theorem ratio_eq (mantissa : Nat) (exponent : Int) :
    ((ratio mantissa exponent).1 : ℚ) = mantissa * 2 ^ exponent * (ratio mantissa exponent).2 ∧
      0 < (ratio mantissa exponent).2 := by
  rw [ratio, scaleDown]
  split
  · next h =>
      obtain ⟨n, rfl⟩ : ∃ n : Nat, exponent = -n := ⟨(-exponent).toNat, by omega⟩
      have hpower : (2 : ℚ) ^ (-n : Int) * 2 ^ n = 1 := by
        rw [zpow_neg, zpow_natCast, inv_mul_cancel₀ (by norm_num)]
      simp only [Int.neg_neg, Int.toNat_natCast, Nat.one_mul, Nat.pow_eq]
      refine ⟨?_, Nat.two_pow_pos n⟩
      push_cast
      rw [mul_assoc, hpower, mul_one]
  · next h =>
      obtain ⟨n, rfl⟩ : ∃ n : Nat, exponent = n := ⟨exponent.toNat, by omega⟩
      simp only [Int.neg_neg, Int.toNat_natCast, Nat.pow_eq]
      exact ⟨by push_cast; rw [zpow_natCast, mul_one], Nat.one_pos⟩

end Numeric.Binary64

namespace Clock

theorem isBeyondCounter_eq_false_iff (mantissa : Nat) (exponent : Int) :
    isBeyondCounter mantissa exponent = false ↔
      (mantissa : ℚ) * 2 ^ exponent * 10 ^ 9 < 2 ^ 63 - 2 ^ 9 := by
  obtain ⟨hvalue, hden⟩ := Binary64.ratio_eq mantissa exponent
  have hden' : (0 : ℚ) < (Binary64.ratio mantissa exponent).2 := by exact_mod_cast hden
  have hcast : isBeyondCounter mantissa exponent = false ↔
      ((Binary64.ratio mantissa exponent).1 : ℚ) * 10 ^ 9 <
        (2 ^ 63 - 2 ^ 9) * (Binary64.ratio mantissa exponent).2 := by
    rw [isBeyondCounter, decide_eq_false_iff_not, Nat.not_le, counterBound, nanosecondsInSecond,
      ← Nat.cast_lt (α := ℚ)]
    push_cast
    norm_num
  rw [hcast, hvalue, mul_right_comm, mul_lt_mul_iff_left₀ hden']

/-- The clock of the platform takes what fits in its counter. -/
theorem nanoseconds_eq_none_iff (given : Value) : nanoseconds given = none ↔ given.FitsCounter := by
  cases given with
  | int i =>
      rw [nanoseconds, Value.FitsCounter, counterBound, nanosecondsInSecond]
      split <;> simp <;> omega
  | float x =>
      cases x with
      | finite negative mantissa exponent =>
          rw [nanoseconds, Value.FitsCounter, ← isBeyondCounter_eq_false_iff]
          cases isBeyondCounter mantissa exponent <;> simp
      | _ => simp [nanoseconds, Value.FitsCounter]
  | _ => simp [nanoseconds, Value.FitsCounter]

end Clock

namespace Script

variable {script : Script}

theorem refusal_eq_none_iff (h : script.clock = .nanoseconds) (seconds : Value) :
    script.refusal seconds = none ↔ seconds.FitsCounter := by
  rw [refusal, h, Option.map_eq_none_iff, Clock.nanoseconds_eq_none_iff]

end Script

end SqlBackend
