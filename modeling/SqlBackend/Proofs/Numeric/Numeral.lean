import Mathlib.Data.List.Forall2
import SqlBackend.Numeric.Integer
import SqlBackend.Proofs.Text.Digit
import SqlBackend.Proofs.Text.Trim

/-!
# What spells an integer

`IsNumeral` is the grammar of numerals: one sign at most, and digits of any script in groups between
which single underscores stand. A text spells an integer if it is a numeral of that integer with white
space around it, and these are exactly the texts that are read as one (`integer?_eq_some_iff`). An
integer in base ten is such a text unless it is too long.
-/

namespace SqlBackend.Numeric

open SqlBackend.Text

/-- The digits of the values `ds`, in groups with one underscore between two of them. -/
def SpellsDigits (cs : List Char) (ds : List Nat) : Prop :=
  ∃ groups : List (List Char), groups ≠ [] ∧ (∀ group ∈ groups, group ≠ []) ∧
    cs = ['_'].intercalate groups ∧ List.Forall₂ IsDigit groups.flatten ds

section

variable {c : Char} {d : Nat} {cs : List Char} {ds : List Nat}

theorem SpellsDigits.singleton (h : IsDigit c d) : SpellsDigits [c] [d] :=
  ⟨[[c]], by simp, by simp, by simp, .cons h .nil⟩

/-- A digit in front belongs to the first group. -/
theorem SpellsDigits.cons (hc : IsDigit c d) (h : SpellsDigits cs ds) :
    SpellsDigits (c :: cs) (d :: ds) := by
  obtain ⟨groups, hgroups, hne, rfl, hdigits⟩ := h
  obtain ⟨first, others, rfl⟩ := List.exists_cons_of_ne_nil hgroups
  refine ⟨(c :: first) :: others, List.cons_ne_nil _ _, ?_, ?_, .cons hc hdigits⟩
  · intro group hgroup
    rcases List.mem_cons.mp hgroup with rfl | hother
    · exact List.cons_ne_nil c first
    · exact hne group (List.mem_cons_of_mem first hother)
  · cases others <;> simp [List.intercalate_cons_cons]

/-- A digit in front of an underscore is a group of its own. -/
theorem SpellsDigits.cons_underscore (hc : IsDigit c d) (h : SpellsDigits cs ds) :
    SpellsDigits (c :: '_' :: cs) (d :: ds) := by
  obtain ⟨groups, hgroups, hne, rfl, hdigits⟩ := h
  obtain ⟨first, others, rfl⟩ := List.exists_cons_of_ne_nil hgroups
  refine ⟨[c] :: first :: others, List.cons_ne_nil _ _, ?_, ?_, .cons hc hdigits⟩
  · exact List.forall_mem_cons.mpr ⟨List.cons_ne_nil c [], hne⟩
  · rw [List.intercalate_cons_cons]
    rfl

/-- What is true of a digit, and stays true with another one in front, be it next to the row or before an
underscore, is true of every row of digits that can be read. -/
theorem digitRow?_induction {P : List Char → List Nat → Prop}
    (hlast : ∀ {c d}, IsDigit c d → P [c] [d])
    (hcons : ∀ {c d cs ds}, IsDigit c d → P cs ds → P (c :: cs) (d :: ds))
    (hunderscore : ∀ {c d cs ds}, IsDigit c d → P cs ds → P (c :: '_' :: cs) (d :: ds))
    (h : digitRow? cs = some ds) : P cs ds := by
  fun_induction digitRow? cs generalizing ds with
  | case1 => cases h
  | case2 c =>
      obtain ⟨d, hd, rfl⟩ := Option.map_eq_some_iff.mp h
      exact hlast (digitValue?_eq_some_iff.mp hd)
  | case3 c rest ih =>
      obtain ⟨d, hd, hrest⟩ := Option.bind_eq_some_iff.mp h
      obtain ⟨later, hlater, heq⟩ := Option.bind_eq_some_iff.mp hrest
      cases heq
      exact hunderscore (digitValue?_eq_some_iff.mp hd) (ih hlater)
  | case4 c rest _ _ ih =>
      obtain ⟨d, hd, hrest⟩ := Option.bind_eq_some_iff.mp h
      obtain ⟨later, hlater, heq⟩ := Option.bind_eq_some_iff.mp hrest
      cases heq
      exact hcons (digitValue?_eq_some_iff.mp hd) (ih hlater)

theorem spellsDigits_of_digitRow? (h : digitRow? cs = some ds) : SpellsDigits cs ds :=
  digitRow?_induction .singleton .cons .cons_underscore h

theorem exists_cons_of_digitRow? (h : digitRow? cs = some ds) :
    ∃ c rest d, cs = c :: rest ∧ IsDigit c d :=
  digitRow?_induction (P := fun cs _ => ∃ c rest d, cs = c :: rest ∧ IsDigit c d)
    (fun hc => ⟨_, _, _, rfl, hc⟩) (fun hc _ => ⟨_, _, _, rfl, hc⟩) (fun hc _ => ⟨_, _, _, rfl, hc⟩) h

theorem digitRow?_cons (hc : IsDigit c d) (h : digitRow? cs = some ds) :
    digitRow? (c :: cs) = some (d :: ds) := by
  obtain ⟨e, rest, _, rfl, he⟩ := exists_cons_of_digitRow? h
  have hunderscore : e ≠ '_' := he.ne (by decide)
  rw [digitRow?, digitValue?_eq_some_iff.mpr hc, h]
  · rfl
  · simp
  · simp [hunderscore]

theorem digitRow?_cons_underscore (hc : IsDigit c d) (h : digitRow? cs = some ds) :
    digitRow? (c :: '_' :: cs) = some (d :: ds) := by
  rw [digitRow?, digitValue?_eq_some_iff.mpr hc, h]
  rfl

/-- The digits of a group are read one by one, up to the last, which stands before what comes after. -/
theorem digitRow?_append {group tail : List Char} {es : List Nat} (hgroup : group ≠ [])
    (h : List.Forall₂ IsDigit group ds)
    (htail : ∀ c d, IsDigit c d → digitRow? (c :: tail) = some (d :: es)) :
    digitRow? (group ++ tail) = some (ds ++ es) := by
  induction h with
  | nil => exact absurd rfl hgroup
  | @cons c d rest ds hc hrest ih =>
      cases hrest with
      | nil => exact htail c d hc
      | cons => exact digitRow?_cons hc (ih (List.cons_ne_nil _ _))

theorem digitRow?_of_spellsDigits (h : SpellsDigits cs ds) : digitRow? cs = some ds := by
  obtain ⟨groups, hgroups, hne, rfl, hdigits⟩ := h
  induction groups generalizing ds with
  | nil => exact absurd rfl hgroups
  | cons first others ih =>
      obtain ⟨hfirst, hothers⟩ := List.forall_mem_cons.mp hne
      cases others with
      | nil =>
          rw [List.flatten_singleton] at hdigits
          rw [List.intercalate_singleton]
          have hlast : ∀ c d, IsDigit c d → digitRow? [c] = some [d] := by
            intro c d hc
            rw [digitRow?, digitValue?_eq_some_iff.mpr hc]
            rfl
          have hread := digitRow?_append hfirst hdigits hlast
          rwa [List.append_nil, List.append_nil] at hread
      | cons second others =>
          rw [List.flatten_cons] at hdigits
          have hown := List.forall₂_take first.length hdigits
          have hlater := List.forall₂_drop first.length hdigits
          rw [List.take_left] at hown
          rw [List.drop_left] at hlater
          have hrest := ih (List.cons_ne_nil second others) hothers hlater
          have hread := digitRow?_append hfirst hown fun c d hc => digitRow?_cons_underscore hc hrest
          rw [List.intercalate_cons_cons, List.append_assoc, List.singleton_append]
          rwa [List.take_append_drop] at hread

theorem digitRow?_eq_some_iff : digitRow? cs = some ds ↔ SpellsDigits cs ds :=
  ⟨spellsDigits_of_digitRow?, digitRow?_of_spellsDigits⟩

end

/-- A row of at most 4300 decimal digits that spells `n`. -/
def SpellsMagnitude (cs : List Char) (n : Nat) : Prop :=
  ∃ ds, SpellsDigits cs ds ∧ ds.length ≤ 4300 ∧ n = Nat.ofDigits 10 ds.reverse

/-- A row of digits behind at most one sign. -/
inductive IsNumeral : List Char → Int → Prop where
  | unsigned {cs : List Char} {n : Nat} (h : SpellsMagnitude cs n) : IsNumeral cs n
  | plus {cs : List Char} {n : Nat} (h : SpellsMagnitude cs n) : IsNumeral ('+' :: cs) n
  | minus {cs : List Char} {n : Nat} (h : SpellsMagnitude cs n) : IsNumeral ('-' :: cs) (-n)

/-- A numeral of `n` with white space around it. -/
def SpellsInteger (s : String) (n : Int) : Prop :=
  ∃ before numeral after, s.toList = before ++ numeral ++ after ∧
    (∀ c ∈ before, isWhiteSpace c = true) ∧ (∀ c ∈ after, isWhiteSpace c = true) ∧
    IsNumeral numeral n

/-- The integer of a numeral without white space around it. -/
def numeral? (cs : List Char) : Option Int :=
  (digitRow? (splitSign cs).2).bind fun ds =>
    if ds.length ≤ maxDigits then some (withSign (splitSign cs).1 (ofDigitValues ds)) else none

theorem integer?_eq (s : String) : integer? s = numeral? (trim isWhiteSpace s.toList) := rfl

section

variable {s : String} {cs body : List Char} {negative : Bool} {m : Nat} {n : Int}

/-- A row of digits begins with one. -/
theorem SpellsMagnitude.exists_cons (h : SpellsMagnitude cs m) :
    ∃ c rest d, cs = c :: rest ∧ IsDigit c d := by
  obtain ⟨ds, hds, -⟩ := h
  exact exists_cons_of_digitRow? (digitRow?_eq_some_iff.mpr hds)

/-- Nothing in a row of digits is blank. -/
theorem SpellsMagnitude.isBlank_eq_false (h : SpellsMagnitude cs m) :
    ∀ c ∈ cs, isBlank c = false := by
  obtain ⟨ds, hds, -⟩ := h
  refine digitRow?_induction (P := fun cs _ => ∀ c ∈ cs, isBlank c = false) ?_ ?_ ?_
    (digitRow?_eq_some_iff.mpr hds)
  · intro c d hc
    exact List.forall_mem_singleton.mpr hc.isBlank_eq_false
  · intro c d cs ds hc hcs
    exact List.forall_mem_cons.mpr ⟨hc.isBlank_eq_false, hcs⟩
  · intro c d cs ds hc hcs
    exact List.forall_mem_cons.mpr
      ⟨hc.isBlank_eq_false, List.forall_mem_cons.mpr ⟨by decide, hcs⟩⟩

theorem splitSign_of_spellsMagnitude (h : SpellsMagnitude cs m) : splitSign cs = (false, cs) := by
  obtain ⟨c, rest, d, rfl, hc⟩ := h.exists_cons
  have hplus : c ≠ '+' := hc.ne (by decide)
  have hminus : c ≠ '-' := hc.ne (by decide)
  rw [splitSign]
  · simp [hminus]
  · simp [hplus]

theorem numeral?_of_spellsMagnitude (hsign : splitSign cs = (negative, body))
    (h : SpellsMagnitude body m) : numeral? cs = some (withSign negative m) := by
  obtain ⟨ds, hds, hlength, rfl⟩ := h
  rw [numeral?, hsign, digitRow?_eq_some_iff.mpr hds, Option.bind_some,
    if_pos (show ds.length ≤ maxDigits from hlength), ofDigitValues_eq_ofDigits]

theorem exists_spellsMagnitude_of_numeral? (hsign : splitSign cs = (negative, body))
    (h : numeral? cs = some n) : ∃ m, SpellsMagnitude body m ∧ n = withSign negative m := by
  rw [numeral?, hsign] at h
  obtain ⟨ds, hds, hn⟩ := Option.bind_eq_some_iff.mp h
  split at hn
  · next hlength =>
      cases hn
      exact ⟨_, ⟨ds, digitRow?_eq_some_iff.mp hds, hlength, rfl⟩, by rw [ofDigitValues_eq_ofDigits]⟩
  · cases hn

theorem numeral?_eq_some_iff : numeral? cs = some n ↔ IsNumeral cs n := by
  constructor
  · intro h
    obtain ⟨rest, rfl⟩ | ⟨rest, rfl⟩ | hsign :
        (∃ rest, cs = '-' :: rest) ∨ (∃ rest, cs = '+' :: rest) ∨ splitSign cs = (false, cs) := by
      fun_cases splitSign cs with
      | case1 rest => exact .inl ⟨rest, rfl⟩
      | case2 rest => exact .inr (.inl ⟨rest, rfl⟩)
      | case3 => exact .inr (.inr rfl)
    · obtain ⟨m, hm, rfl⟩ := exists_spellsMagnitude_of_numeral? rfl h
      exact .minus hm
    · obtain ⟨m, hm, rfl⟩ := exists_spellsMagnitude_of_numeral? rfl h
      exact .plus hm
    · obtain ⟨m, hm, rfl⟩ := exists_spellsMagnitude_of_numeral? hsign h
      exact .unsigned hm
  · intro h
    cases h with
    | unsigned h => exact numeral?_of_spellsMagnitude (splitSign_of_spellsMagnitude h) h
    | plus h => exact numeral?_of_spellsMagnitude rfl h
    | minus h => exact numeral?_of_spellsMagnitude rfl h

/-- A numeral begins with a digit or a sign. -/
theorem IsNumeral.exists_cons (h : IsNumeral cs n) :
    ∃ c rest, cs = c :: rest ∧ ((∃ d, IsDigit c d) ∨ c = '+' ∨ c = '-') := by
  cases h with
  | unsigned h =>
      obtain ⟨c, rest, d, rfl, hc⟩ := h.exists_cons
      exact ⟨c, rest, rfl, .inl ⟨d, hc⟩⟩
  | plus h => exact ⟨'+', _, rfl, .inr (.inl rfl)⟩
  | minus h => exact ⟨'-', _, rfl, .inr (.inr rfl)⟩

theorem IsNumeral.isBlank_eq_false (h : IsNumeral cs n) : ∀ c ∈ cs, isBlank c = false := by
  cases h with
  | unsigned h => exact h.isBlank_eq_false
  | plus h => exact List.forall_mem_cons.mpr ⟨by decide, h.isBlank_eq_false⟩
  | minus h => exact List.forall_mem_cons.mpr ⟨by decide, h.isBlank_eq_false⟩

/-- Trimming takes off what stands around a numeral, and nothing of it. -/
theorem SpellsInteger.isNumeral_trim {p : Char → Bool} (h : SpellsInteger s n)
    (hspace : ∀ c, isWhiteSpace c = true → p c = true) (hblank : ∀ c, p c = true → isBlank c = true) :
    IsNumeral (trim p s.toList) n := by
  obtain ⟨before, numeral, after, hs, hbefore, hafter, hnumeral⟩ := h
  have hkept : ∀ c ∈ numeral, p c = false := by
    intro c hc
    have hnot := hnumeral.isBlank_eq_false c hc
    cases hp : p c with
    | false => rfl
    | true =>
        rw [hblank c hp] at hnot
        cases hnot
  rwa [hs, trim_between (fun c hc => hspace c (hbefore c hc)) (isTrimmed_of_forall hkept)
    fun c hc => hspace c (hafter c hc)]

/-- A text is read as an integer exactly if it spells one. -/
theorem integer?_eq_some_iff : integer? s = some n ↔ SpellsInteger s n := by
  rw [integer?_eq, numeral?_eq_some_iff]
  constructor
  · intro h
    obtain ⟨before, after, hs, hbefore, hafter⟩ := exists_eq_append_trim isWhiteSpace s.toList
    exact ⟨before, _, after, hs, hbefore, hafter, h⟩
  · intro h
    exact h.isNumeral_trim (fun _ hc => hc) fun _ => isBlank_of_isWhiteSpace

theorem spellsMagnitude_repr (h : m < 10 ^ 4300) : SpellsMagnitude m.repr.toList m := by
  -- For any number of digits, so that no power is computed.
  have hlength {k : Nat} (hk : 0 < k) : m < 10 ^ k → m.repr.length ≤ k :=
    (Nat.length_repr_le_iff hk).mpr
  refine ⟨m.repr.toList.map fun c => c.toNat - 0x30,
    ⟨[m.repr.toList], List.cons_ne_nil _ _, ?_, List.intercalate_singleton.symm, ?_⟩, ?_, ?_⟩
  · rw [List.forall_mem_singleton, Nat.toList_repr]
    exact Nat.toDigits_ne_nil
  · rw [List.flatten_singleton, List.forall₂_map_right_iff, List.forall₂_same]
    exact fun c hc => isDigit_of_isAsciiDigit (isAsciiDigit_of_mem_repr hc)
  · rw [List.length_map, String.length_toList]
    exact hlength (by decide) h
  · rw [← ofDigitValues_eq_ofDigits]
    exact (ofAsciiDigits_repr m).symm

/-- What an integer is written as in base ten spells it, as long as it has no more than 4300 digits. -/
theorem spellsInteger_decimal (h : n.natAbs < 10 ^ 4300) : SpellsInteger (decimal n) n := by
  refine ⟨[], (decimal n).toList, [], by simp, by simp, by simp, ?_⟩
  cases n with
  | ofNat m => exact .unsigned (spellsMagnitude_repr h)
  | negSucc m =>
      rw [decimal, String.toList_append]
      exact .minus (spellsMagnitude_repr h)

end

end SqlBackend.Numeric
