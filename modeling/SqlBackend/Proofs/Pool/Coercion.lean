import SqlBackend.Pool.Properties
import SqlBackend.Proofs.Numeric.Numeral
import SqlBackend.Routine

/-!
# What properties are coerced to

A property is a truth value if it spells one, an integer if it spells one, and else the text that it is.
No text spells both: a numeral begins with a digit or a sign, which have no case, and the words of the
truth values begin with a letter.
-/

namespace SqlBackend

namespace Pool

open SqlBackend.Text SqlBackend.Numeric

/-- The word of a truth value. -/
def truthWord (b : Bool) : String := if b then "true" else "false"

/-- The word of a truth value in any case, with blanks around it. -/
def SpellsTruth (s : String) (b : Bool) : Prop :=
  lowerChars (trim isBlank s.toList) = (truthWord b).toList

instance (s : String) (b : Bool) : Decidable (SpellsTruth s b) :=
  inferInstanceAs (Decidable (_ = _))

variable {s : String} {b : Bool} {n : Int}

theorem truthOf?_eq_some_iff : truthOf? s = some b ↔ SpellsTruth s b := by
  have hword (w : String) : lowerChars (trim isBlank s.toList) = w.toList ↔
      String.ofList (lowerChars (trim isBlank s.toList)) = w := by
    rw [← String.toList_inj, String.toList_ofList]
  rw [SpellsTruth, hword, truthOf?]
  generalize String.ofList (lowerChars (trim isBlank s.toList)) = word
  by_cases htrue : word = "true"
  · rw [if_pos htrue, htrue]
    cases b <;> decide
  · by_cases hfalse : word = "false"
    · rw [if_neg htrue, if_pos hfalse, hfalse]
      cases b <;> decide
    · rw [if_neg htrue, if_neg hfalse]
      cases b <;> simp [truthWord, htrue, hfalse]

/-- No numeral has a letter in front, in whatever case. -/
theorem head?_lowerChars_of_isNumeral {cs : List Char} (h : IsNumeral cs n) :
    ∀ c ∈ (lowerChars cs).head?, (∃ d, IsDigit c d) ∨ c = '+' ∨ c = '-' := by
  obtain ⟨c, rest, rfl, hc⟩ := h.exists_cons
  have hkept : (lowerChars (c :: rest)).head? = some c := by
    rcases hc with ⟨d, hd⟩ | rfl | rfl
    · rw [head?_lowerChars (hd.ne (by decide)) (hd.ne (by decide)), hd.lowerChar_eq]
    · rw [head?_lowerChars (by decide) (by decide)]
      decide +kernel
    · rw [head?_lowerChars (by decide) (by decide)]
      decide +kernel
  rw [hkept]
  rintro _ ⟨⟩
  exact hc

/-- No text is both the word of a truth value and an integer. -/
theorem not_spellsInteger_of_spellsTruth (h : SpellsTruth s b) : ¬ SpellsInteger s n := by
  intro hinteger
  have hnumeral : IsNumeral (trim isBlank s.toList) n :=
    hinteger.isNumeral_trim (fun _ => isBlank_of_isWhiteSpace) fun _ hc => hc
  have hhead := head?_lowerChars_of_isNumeral hnumeral
  rw [h] at hhead
  obtain ⟨c, hc, hletter⟩ : ∃ c ∈ (truthWord b).toList.head?, c = 't' ∨ c = 'f' := by
    cases b with
    | true => exact ⟨'t', rfl, .inl rfl⟩
    | false => exact ⟨'f', rfl, .inr rfl⟩
  rcases hhead c hc with ⟨d, hd⟩ | rfl | rfl
  · rcases hletter with rfl | rfl
    · exact hd.ne (by decide) rfl
    · exact hd.ne (by decide) rfl
  · exact absurd hletter (by decide)
  · exact absurd hletter (by decide)

theorem coerce_of_spellsTruth (h : SpellsTruth s b) : coerce s = .bool b := by
  rw [coerce, truthOf?_eq_some_iff.mpr h]

theorem coerce_of_not_spellsTruth (h : ∀ b, ¬ SpellsTruth s b) :
    coerce s = ((integer? s).map Value.int).getD (.text s) := by
  have hnone : truthOf? s = none := by
    rw [Option.eq_none_iff_forall_ne_some]
    exact fun b hb => h b (truthOf?_eq_some_iff.mp hb)
  rw [coerce, hnone]
  cases integer? s <;> rfl

theorem coerce_of_spellsInteger (h : SpellsInteger s n) : coerce s = .int n := by
  rw [coerce_of_not_spellsTruth fun b hb => not_spellsInteger_of_spellsTruth hb h,
    integer?_eq_some_iff.mpr h]
  rfl

theorem coerce_of_neither (htruth : ∀ b, ¬ SpellsTruth s b) (hinteger : ∀ n, ¬ SpellsInteger s n) :
    coerce s = .text s := by
  have hnone : integer? s = none := by
    rw [Option.eq_none_iff_forall_ne_some]
    exact fun n hn => hinteger n (integer?_eq_some_iff.mp hn)
  rw [coerce_of_not_spellsTruth htruth, hnone]
  rfl

/-- What a text comes to says what it spells. -/
theorem coerce_cases (s : String) :
    (∃ b, SpellsTruth s b ∧ coerce s = .bool b) ∨ (∃ n, SpellsInteger s n ∧ coerce s = .int n) ∨
      (∀ b, ¬ SpellsTruth s b) ∧ (∀ n, ¬ SpellsInteger s n) ∧ coerce s = .text s := by
  by_cases htruth : ∃ b, SpellsTruth s b
  · obtain ⟨b, hb⟩ := htruth
    exact .inl ⟨b, hb, coerce_of_spellsTruth hb⟩
  · by_cases hinteger : ∃ n, SpellsInteger s n
    · obtain ⟨n, hn⟩ := hinteger
      exact .inr (.inl ⟨n, hn, coerce_of_spellsInteger hn⟩)
    · rw [not_exists] at htruth hinteger
      exact .inr (.inr ⟨htruth, hinteger, coerce_of_neither htruth hinteger⟩)

theorem coerce_eq_bool_iff : coerce s = .bool b ↔ SpellsTruth s b := by
  refine ⟨fun h => ?_, coerce_of_spellsTruth⟩
  rcases coerce_cases s with ⟨c, hc, hcoerce⟩ | ⟨n, -, hcoerce⟩ | ⟨-, -, hcoerce⟩
  · cases h.symm.trans hcoerce
    exact hc
  · cases h.symm.trans hcoerce
  · cases h.symm.trans hcoerce

theorem coerce_eq_int_iff : coerce s = .int n ↔ SpellsInteger s n := by
  refine ⟨fun h => ?_, coerce_of_spellsInteger⟩
  rcases coerce_cases s with ⟨c, -, hcoerce⟩ | ⟨m, hm, hcoerce⟩ | ⟨-, -, hcoerce⟩
  · cases h.symm.trans hcoerce
  · cases h.symm.trans hcoerce
    exact hm
  · cases h.symm.trans hcoerce

end Pool

open SqlBackend.Pool SqlBackend.Numeric SqlBackend.Text

/-- A text comes to a truth value exactly if it is the word of that value in any case with blanks around
it, and to an integer exactly if it is a numeral of at most 4300 digits with white space around it. No
text is both, and one that is neither stays as it is; none of them makes the routine fail. What an
integer of at most 4300 digits is written as comes to that integer. -/
theorem Pool.coerce_follows_spelling :
    (∀ s : String,
      (∀ b, coerce s = .bool b ↔ SpellsTruth s b) ∧
      (∀ n, coerce s = .int n ↔ SpellsInteger s n) ∧
      ((∀ b, ¬ SpellsTruth s b) → (∀ n, ¬ SpellsInteger s n) → coerce s = .text s) ∧
      (∀ b n, SpellsTruth s b → ¬ SpellsInteger s n) ∧
      ∀ (script : Script) (world : World),
        Action.run (Routine.coerce.call [.text s]) script world = (.ok (coerce s), world)) ∧
    ∀ n : Int, n.natAbs < 10 ^ 4300 → coerce (decimal n) = .int n := by
  refine ⟨fun s => ⟨fun b => coerce_eq_bool_iff, fun n => coerce_eq_int_iff, coerce_of_neither,
    fun b n => not_spellsInteger_of_spellsTruth, fun script world => rfl⟩, fun n hn => ?_⟩
  exact coerce_of_spellsInteger (spellsInteger_decimal hn)

/-- A numeral whose digits are of two scripts and which stands between two kinds of white space. -/
theorem spellsInteger_of_mixedDigits : SpellsInteger "\u2003-\u0663_\u096A\n" (-34) := by
  have hthree : IsDigit '\u0663' 3 := ⟨0x660, by decide, by decide⟩
  have hfour : IsDigit '\u096A' 4 := ⟨0x966, by decide, by decide⟩
  have hrow : SpellsDigits ['\u0663', '_', '\u096A'] [3, 4] :=
    .cons_underscore hthree (.singleton hfour)
  have hnumeral : IsNumeral ['-', '\u0663', '_', '\u096A'] (-34) :=
    .minus ⟨[3, 4], hrow, by decide, by decide⟩
  exact ⟨['\u2003'], ['-', '\u0663', '_', '\u096A'], ['\n'], rfl,
    List.forall_mem_singleton.mpr (by decide), List.forall_mem_singleton.mpr (by decide), hnumeral⟩

theorem coerce_follows_spelling_of_samples :
    SpellsTruth "\x1CTrUe " true ∧ ¬ SpellsInteger "\x1CTrUe " 1 ∧
      coerce "\u2003-\u0663_\u096A\n" = .int (-34) ∧
      (∀ b, ¬ SpellsTruth " 1__0" b) ∧ (∀ n, ¬ SpellsInteger " 1__0" n) ∧
      coerce " 1__0" = .text " 1__0" ∧
      Int.natAbs (-18446744073709551616) < 10 ^ 4300 ∧
      coerce (decimal (-18446744073709551616)) = .int (-18446744073709551616) := by
  obtain ⟨htexts, hdecimal⟩ := Pool.coerce_follows_spelling
  have htruth : SpellsTruth "\x1CTrUe " true := by decide +kernel
  obtain ⟨-, -, hneither, -⟩ := htexts " 1__0"
  have hword : ∀ b, ¬ SpellsTruth " 1__0" b := by decide +kernel
  have hnumeral : ∀ n, ¬ SpellsInteger " 1__0" n := by
    intro n hn
    have hread := integer?_eq_some_iff.mpr hn
    have hnone : integer? " 1__0" = none := by decide +kernel
    rw [hnone] at hread
    cases hread
  have hpower {k : Nat} (hk : 20 ≤ k) : Int.natAbs (-18446744073709551616) < 10 ^ k :=
    calc Int.natAbs (-18446744073709551616) < 10 ^ 20 := by decide
      _ ≤ 10 ^ k := Nat.pow_le_pow_right (by decide) hk
  have hshort : Int.natAbs (-18446744073709551616) < 10 ^ 4300 := hpower (by decide)
  have hmixed := ((htexts _).2.1 (-34)).mpr spellsInteger_of_mixedDigits
  exact ⟨htruth, (htexts _).2.2.2.1 true 1 htruth, hmixed, hword, hnumeral, hneither hword hnumeral,
    hshort, hdecimal _ hshort⟩

end SqlBackend
