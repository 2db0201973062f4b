import Mathlib.Data.Nat.Digits.Defs
import SqlBackend.Fault

/-!
# What can be written

An integer can be written if it has at most 4300 digits, that is, if its magnitude is below
`10 ^ 4300`, and a value whose integers are all below that bound can be shown and reported. Where
something has to be written that cannot be, the fault is a numeral that is too long.
-/

namespace SqlBackend

open SqlBackend.Numeric

namespace Numeric

theorem length_repr_le_maxDigits_iff (n : Nat) : n.repr.length ≤ maxDigits ↔ n < 10 ^ 4300 := by
  -- For any number of digits, so that no power is computed.
  have hlength (k : Nat) (hk : 0 < k) : n.repr.length ≤ k ↔ n < 10 ^ k := Nat.length_repr_le_iff hk
  exact hlength 4300 (by decide)

theorem lt_of_lt_billion {n : Nat} (h : n < 10 ^ 9) : n < 10 ^ 4300 := by
  have hpow (k : Nat) (hk : 9 ≤ k) : n < 10 ^ k :=
    Nat.lt_of_lt_of_le h (Nat.pow_le_pow_right (by decide) hk)
  exact hpow 4300 (by decide)

theorem decimal?_eq (i : Int) :
    decimal? i = if i.natAbs < 10 ^ 4300 then some (decimal i) else none := by
  simp only [decimal?, length_repr_le_maxDigits_iff]

theorem decimal?_of_lt {i : Int} (h : i.natAbs < 10 ^ 4300) : decimal? i = some (decimal i) := by
  rw [decimal?_eq, if_pos h]

end Numeric

namespace Fault

end Fault

/-- A natural number is written, or it is a numeral that is too long. -/
theorem writtenInteger_natCast (n : Nat) :
    writtenInteger n = if n < 10 ^ 4300 then .ok n.repr else .error (.numeralTooLong none) := by
  rw [writtenInteger, decimal?_eq, Int.natAbs_natCast]
  split <;> rfl

namespace Value

@[simp] theorem written_text (s : String) : (text s).written = .ok s := by
  rw [written, shown?_text]
  rfl

theorem written_int (i : Int) : (int i).written = writtenInteger i := by
  rw [written, shown?_int, writtenInteger]

theorem written_eq_ok_iff {value : Value} {s : String} :
    value.written = .ok s ↔ value.shown? = some s := by
  rw [written]
  cases value.shown? <;> simp [Fault.unlessSome]

/-- A value that cannot be written is one with a numeral that is too long. -/
theorem written_of_shown?_eq_none {value : Value} (h : value.shown? = none) :
    value.written = .error (.numeralTooLong none) := by
  rw [written, h]
  rfl

mutual

/-- A value in which every integer has at most 4300 digits. -/
def IsBounded : Value → Prop
  | int i => i.natAbs < 10 ^ 4300
  | list items => AreBounded items
  | mapping entries => HoldBounded entries
  | raised ⟨_, _, args, attributes⟩ => AreBounded args ∧ HoldBounded attributes
  | object attributes => HoldBounded attributes
  | _ => True

def AreBounded : List Value → Prop
  | [] => True
  | item :: rest => item.IsBounded ∧ AreBounded rest

def HoldBounded : List (String × Value) → Prop
  | [] => True
  | (_, value) :: rest => value.IsBounded ∧ HoldBounded rest

end

theorem isBounded_int {i : Int} (h : i.natAbs < 10 ^ 9) : (int i).IsBounded := by
  rw [IsBounded]
  exact lt_of_lt_billion h

mutual

theorem exists_quoted? : ∀ {value : Value}, value.IsBounded → ∃ s, value.quoted? = some s
  | null, _ => ⟨_, by rw [quoted?]⟩
  | bool _, _ => ⟨_, by rw [quoted?]⟩
  | int _, h => ⟨_, by rw [quoted?, decimal?_of_lt (by rwa [IsBounded] at h)]⟩
  | float _, _ => ⟨_, by rw [quoted?]⟩
  | text _, _ => ⟨_, by rw [quoted?]⟩
  | list items, h => by
    rw [IsBounded] at h
    obtain ⟨parts, hparts⟩ := exists_quotedItems? h
    exact ⟨_, by rw [quoted?, hparts]; rfl⟩
  | mapping entries, h => by
    rw [IsBounded] at h
    obtain ⟨parts, hparts⟩ := exists_quotedEntries? h
    exact ⟨_, by rw [quoted?, hparts]; rfl⟩
  | raised ⟨_, _, args, _⟩, h => by
    rw [IsBounded] at h
    obtain ⟨parts, hparts⟩ := exists_quotedItems? h.1
    exact ⟨_, by rw [quoted?, hparts]; rfl⟩
  | object _, _ => ⟨_, by rw [quoted?]⟩

theorem exists_quotedItems? : ∀ {items : List Value}, AreBounded items →
    ∃ parts, quotedItems? items = some parts
  | [], _ => ⟨_, by rw [quotedItems?]⟩
  | item :: rest, h => by
    rw [AreBounded] at h
    obtain ⟨part, hpart⟩ := exists_quoted? h.1
    obtain ⟨parts, hparts⟩ := exists_quotedItems? h.2
    exact ⟨_, by rw [quotedItems?, hpart, hparts]; rfl⟩

theorem exists_quotedEntries? : ∀ {entries : List (String × Value)}, HoldBounded entries →
    ∃ parts, quotedEntries? entries = some parts
  | [], _ => ⟨_, by rw [quotedEntries?]⟩
  | (key, value) :: rest, h => by
    rw [HoldBounded] at h
    obtain ⟨part, hpart⟩ := exists_quoted? h.1
    obtain ⟨parts, hparts⟩ := exists_quotedEntries? h.2
    exact ⟨_, by rw [quotedEntries?, hpart, hparts]; rfl⟩

end

theorem exists_argumentsText? {shown : List (Option String)} {quoted : List String}
    (hshown : ∀ part ∈ shown, ∃ s, part = some s) :
    ∃ s, argumentsText? shown (some quoted) = some s := by
  match shown with
  | [] => exact ⟨_, rfl⟩
  | [only] => exact hshown only List.mem_cons_self
  | _ :: _ :: _ => exact ⟨_, rfl⟩

theorem exists_of_lookup {parts : List (String × Option String)}
    (hparts : ∀ entry ∈ parts, ∃ s, entry.2 = some s) {name : String} {part : Option String}
    (h : parts.lookup name = some part) : ∃ s, part = some s := by
  obtain ⟨before, after, rfl, -⟩ := List.lookup_eq_some_iff.mp h
  exact hparts (name, part) (List.mem_append_right before List.mem_cons_self)

theorem exists_systemText? {shown files : List (String × Option String)} {otherwise : String}
    (hshown : ∀ entry ∈ shown, ∃ s, entry.2 = some s)
    (hfiles : ∀ entry ∈ files, ∃ s, entry.2 = some s) :
    ∃ s, systemText? shown files (some otherwise) = some s := by
  have hpart (name : String) : ∃ s, (shown.lookup name).getD null.quoted? = some s := by
    cases hlookup : shown.lookup name with
    | none => exact ⟨"None", by rw [Option.getD_none, quoted?]⟩
    | some part => exact exists_of_lookup hshown hlookup
  obtain ⟨number, hnumber⟩ := hpart "errno"
  obtain ⟨meaning, hmeaning⟩ := hpart "strerror"
  simp only [systemText?, hnumber, hmeaning]
  split
  · next file other hfile hother =>
      obtain ⟨name, rfl⟩ := exists_of_lookup hfiles hfile
      obtain ⟨otherName, rfl⟩ := exists_of_lookup hfiles hother
      exact ⟨_, rfl⟩
  · next file hfile _ =>
      obtain ⟨name, rfl⟩ := exists_of_lookup hfiles hfile
      exact ⟨_, rfl⟩
  · split
    · exact ⟨_, rfl⟩
    · exact ⟨_, rfl⟩

theorem exists_quoted?_of_mem {entries : List (String × Value)} (h : HoldBounded entries) :
    ∀ entry ∈ entries, ∃ s, entry.2.quoted? = some s := by
  induction entries with
  | nil => simp
  | cons entry rest ih =>
      rw [HoldBounded] at h
      exact List.forall_mem_cons.mpr ⟨exists_quoted? h.1, ih h.2⟩

mutual

/-- A bounded value can be put into a text. -/
theorem exists_shown? : ∀ {value : Value}, value.IsBounded → ∃ s, value.shown? = some s
  | text _, _ => ⟨_, shown?_text _⟩
  | raised ⟨severity, _, args, attributes⟩, h => by
    rw [IsBounded] at h
    obtain ⟨quoted, hquoted⟩ := exists_quotedItems? h.1
    obtain ⟨own, hown⟩ := @exists_argumentsText? _ quoted (exists_shownItems h.1)
    rw [shown?, hquoted, hown]
    split
    · refine exists_systemText? (exists_shownEntries h.2) fun entry hentry => ?_
      obtain ⟨held, hheld, rfl⟩ := List.mem_map.mp hentry
      exact exists_quoted?_of_mem h.2 held hheld
    · exact ⟨own, rfl⟩
  | null, h => by simpa [shown?] using exists_quoted? h
  | bool _, h => by simpa [shown?] using exists_quoted? h
  | int _, h => by simpa [shown?] using exists_quoted? h
  | float _, h => by simpa [shown?] using exists_quoted? h
  | list _, h => by simpa [shown?] using exists_quoted? h
  | mapping _, h => by simpa [shown?] using exists_quoted? h
  | object _, h => by simpa [shown?] using exists_quoted? h

theorem exists_shownItems : ∀ {items : List Value}, AreBounded items →
    ∀ part ∈ shownItems items, ∃ s, part = some s
  | [], _ => by simp [shownItems]
  | item :: rest, h => by
    rw [AreBounded] at h
    rw [shownItems]
    exact List.forall_mem_cons.mpr ⟨exists_shown? h.1, exists_shownItems h.2⟩

theorem exists_shownEntries : ∀ {entries : List (String × Value)}, HoldBounded entries →
    ∀ entry ∈ shownEntries entries, ∃ s, entry.2 = some s
  | [], _ => by simp [shownEntries]
  | (key, value) :: rest, h => by
    rw [HoldBounded] at h
    rw [shownEntries]
    exact List.forall_mem_cons.mpr ⟨exists_shown? h.1, exists_shownEntries h.2⟩

end

end Value

end SqlBackend
