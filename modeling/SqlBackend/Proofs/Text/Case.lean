import SqlBackend.Text.Ascii
import SqlBackend.Text.Lowercase

/-!
# Texts that differ in the case of ASCII letters

A capital ASCII letter and its small form have the same lower-case form, and they are alike in all that
the lower-case form of a sigma near them depends on. So texts that differ in the case of ASCII letters
only have the same lower-case form.
-/

namespace SqlBackend.Text

/-- What holds of the capitals A to Z holds of every ASCII capital. -/
theorem forall_isAsciiUpper {P : Char → Prop} (h : ∀ k < 26, P (Char.ofNat (0x41 + k))) {c : Char}
    (hc : isAsciiUpper c = true) : P c := by
  simp only [isAsciiUpper, Bool.and_eq_true, decide_eq_true_eq] at hc
  have hplace : 0x41 + (c.toNat - 0x41) = c.toNat := by omega
  have hletter := h (c.toNat - 0x41) (by omega)
  rwa [hplace, Char.ofNat_toNat] at hletter

/-- What does not tell a capital from its small form sees no difference of case. -/
theorem apply_asciiLower {β : Type} {f : Char → β}
    (h : ∀ k < 26, f (asciiLower (Char.ofNat (0x41 + k))) = f (Char.ofNat (0x41 + k))) (c : Char) :
    f (asciiLower c) = f c := by
  by_cases hc : isAsciiUpper c = true
  · exact forall_isAsciiUpper (P := fun c => f (asciiLower c) = f c) h hc
  · rw [asciiLower, if_neg hc]

theorem lowerChar_asciiLower (c : Char) : lowerChar (asciiLower c) = lowerChar c :=
  apply_asciiLower (by decide +kernel) c

theorem caseIgnorable_asciiLower (c : Char) :
    caseIgnorable.has (asciiLower c) = caseIgnorable.has c :=
  apply_asciiLower (by decide +kernel) c

theorem cased_asciiLower (c : Char) : cased.has (asciiLower c) = cased.has c :=
  apply_asciiLower (by decide +kernel) c

theorem startsCased_map_asciiLower (cs : List Char) :
    startsCased (cs.map asciiLower) = startsCased cs := by
  have hignored : caseIgnorable.has ∘ asciiLower = caseIgnorable.has :=
    funext caseIgnorable_asciiLower
  rw [startsCased, startsCased, List.dropWhile_map, hignored]
  cases cs.dropWhile caseIgnorable.has with
  | nil => rfl
  | cons c rest => exact cased_asciiLower c

theorem lowerIn_map_asciiLower (before : List Char) (c : Char) (after : List Char) :
    lowerIn (before.map asciiLower) (asciiLower c) (after.map asciiLower) =
      lowerIn before c after := by
  have hdotted : (asciiLower c = 'İ') = (c = 'İ') := apply_asciiLower (f := (· = 'İ')) (by decide) c
  have hsigma : (asciiLower c = 'Σ') = (c = 'Σ') := apply_asciiLower (f := (· = 'Σ')) (by decide) c
  simp only [lowerIn, hdotted, hsigma, startsCased_map_asciiLower, lowerChar_asciiLower]

theorem lowerAfter_map_asciiLower (before cs : List Char) :
    lowerAfter (before.map asciiLower) (cs.map asciiLower) = lowerAfter before cs := by
  induction cs generalizing before with
  | nil => rfl
  | cons c rest ih =>
      rw [List.map_cons, lowerAfter_cons, lowerAfter_cons, lowerIn_map_asciiLower, ← List.map_cons, ih]

theorem lowerChars_map_asciiLower (cs : List Char) :
    lowerChars (cs.map asciiLower) = lowerChars cs :=
  lowerAfter_map_asciiLower [] cs

/-- Texts that differ in the case of ASCII letters only have the same lower-case form. -/
theorem lowerChars_congr {cs ds : List Char} (h : cs.map asciiLower = ds.map asciiLower) :
    lowerChars cs = lowerChars ds := by
  rw [← lowerChars_map_asciiLower cs, h, lowerChars_map_asciiLower]

end SqlBackend.Text
