import Mathlib.Data.List.TakeWhile
import SqlBackend.Text.Blank

/-!
# Trimming

Trimming splits a text in three: what is taken off in front, what is left, and what is taken off at the
end. What is left neither begins nor ends with a member of the class, and a text of which that holds is
left alone.
-/

namespace SqlBackend.Text

variable {p : Char → Bool} {cs ws : List Char}

/-- There is nothing to be trimmed at either end. -/
structure IsTrimmed (p : Char → Bool) (cs : List Char) : Prop where
  head : ∀ c ∈ cs.head?, p c = false
  last : ∀ c ∈ cs.getLast?, p c = false

theorem dropWhile_of_head? (h : ∀ c ∈ cs.head?, p c = false) : cs.dropWhile p = cs := by
  cases cs with
  | nil => rfl
  | cons c rest => exact List.dropWhile_cons_of_neg (by simp [h c rfl])

theorem head?_dropWhile {c : Char} (h : c ∈ (cs.dropWhile p).head?) : p c = false := by
  have hnot := List.head?_dropWhile_not p cs
  rw [Option.mem_def.mp h] at hnot
  exact hnot

/-- What is left of a text that has been trimmed in front is a part of it. -/
theorem head?_dropTrailing {c : Char} (h : c ∈ (dropTrailing p cs).head?) : c ∈ cs.head? := by
  rw [dropTrailing, List.head?_reverse] at h
  obtain ⟨front, hfront⟩ : cs.reverse.dropWhile p <:+ cs.reverse := List.dropWhile_suffix p
  rw [← List.getLast?_reverse, ← hfront, List.getLast?_append, Option.mem_def.mp h]
  rfl

theorem trim_of_isTrimmed (h : IsTrimmed p cs) : trim p cs = cs := by
  have hlast : ∀ c ∈ cs.reverse.head?, p c = false := by
    rw [List.head?_reverse]
    exact h.last
  rw [trim, dropWhile_of_head? h.head, dropTrailing, dropWhile_of_head? hlast, List.reverse_reverse]

theorem isTrimmed_of_forall (h : ∀ c ∈ cs, p c = false) : IsTrimmed p cs where
  head c hc := h c (List.mem_of_head? hc)
  last c hc := h c (List.mem_of_getLast? hc)

theorem trim_eq_self (h : ∀ c ∈ cs, p c = false) : trim p cs = cs :=
  trim_of_isTrimmed (isTrimmed_of_forall h)

theorem isTrimmed_trim (p : Char → Bool) (cs : List Char) : IsTrimmed p (trim p cs) where
  head _ h := head?_dropWhile (head?_dropTrailing h)
  last _ h := by
    rw [trim, dropTrailing, List.getLast?_reverse] at h
    exact head?_dropWhile h

/-- What is taken off by trimming is in the class. -/
theorem exists_eq_append_trim (p : Char → Bool) (cs : List Char) :
    ∃ before after, cs = before ++ trim p cs ++ after ∧ (∀ c ∈ before, p c = true) ∧
      ∀ c ∈ after, p c = true := by
  refine ⟨cs.takeWhile p, ((cs.dropWhile p).reverse.takeWhile p).reverse, ?_, ?_, ?_⟩
  · rw [trim, dropTrailing, List.append_assoc, ← List.reverse_append,
      List.takeWhile_append_dropWhile, List.reverse_reverse, List.takeWhile_append_dropWhile]
  · exact fun c hc => List.mem_takeWhile_imp hc
  · exact fun c hc => List.mem_takeWhile_imp (List.mem_reverse.mp hc)

theorem trim_append_right (cs : List Char) (h : ∀ c ∈ ws, p c = true) :
    trim p (cs ++ ws) = trim p cs := by
  rw [trim, trim, List.dropWhile_append]
  split
  · next hempty =>
      rw [List.isEmpty_iff.mp hempty, List.dropWhile_eq_nil_iff.mpr h]
  · exact dropTrailing_append_of_all _ h

/-- Members of the class around a text that has been trimmed are taken off again. -/
theorem trim_between {before after : List Char} (hbefore : ∀ c ∈ before, p c = true)
    (hcs : IsTrimmed p cs) (hafter : ∀ c ∈ after, p c = true) :
    trim p (before ++ cs ++ after) = cs := by
  rw [trim_append_right _ hafter, trim_append_of_all _ hbefore, trim_of_isTrimmed hcs]

end SqlBackend.Text
