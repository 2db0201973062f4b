import SqlBackend.Sql.Literal

/-!
# Reading between quotes

A text that stands between two marks ends at the first mark that is not followed by another; a mark
inside it is written twice. What `readQuoted` reads from a literal is the text that the literal was
written for, whatever comes after, so long as this is no quote.
-/

namespace SqlBackend.Sql

/-- What has been read when `cs` stands before it. -/
def following (cs : List Char) (read : Option (List Char × List Char)) :
    Option (List Char × List Char) :=
  read.map (Prod.map (cs ++ ·) id)

@[simp] theorem following_none (cs : List Char) : following cs none = none := rfl

@[simp] theorem following_some (cs s rest : List Char) :
    following cs (some (s, rest)) = some (cs ++ s, rest) := rfl

theorem following_eq_some_iff {cs s rest : List Char} {read : Option (List Char × List Char)} :
    following cs read = some (s, rest) ↔ ∃ later, read = some (later, rest) ∧ s = cs ++ later := by
  cases read with
  | none => simp
  | some pair =>
      obtain ⟨later, behind⟩ := pair
      rw [following_some, Option.some.injEq, Prod.mk.injEq]
      constructor
      · rintro ⟨rfl, rfl⟩
        exact ⟨later, rfl, rfl⟩
      · rintro ⟨_, ⟨⟩, rfl⟩
        exact ⟨rfl, rfl⟩

theorem exists_following_iff {cs rest : List Char} {read : Option (List Char × List Char)} :
    (∃ s, following cs read = some (s, rest)) ↔ ∃ s, read = some (s, rest) := by
  constructor
  · rintro ⟨s, h⟩
    obtain ⟨later, hread, -⟩ := following_eq_some_iff.mp h
    exact ⟨later, hread⟩
  · rintro ⟨later, rfl⟩
    exact ⟨cs ++ later, rfl⟩

/-- The text up to the mark that ends it, and what comes after. Two marks stand for one of the text. -/
def readQuoted (mark : Char) : List Char → Option (List Char × List Char)
  | [] => none
  | [c] => if c = mark then some ([], []) else none
  | c :: d :: rest =>
    if c = mark then
      if d = mark then following [mark] (readQuoted mark rest) else some ([], d :: rest)
    else following [c] (readQuoted mark (d :: rest))

variable {mark : Char} {cs rest : List Char}

theorem readQuoted_of_head?_ne (h : rest.head? ≠ some mark) :
    readQuoted mark (mark :: rest) = some ([], rest) := by
  cases rest with
  | nil => simp [readQuoted]
  | cons d rest =>
      have hd : d ≠ mark := fun heq => h (congrArg some heq)
      simp [readQuoted, hd]

theorem readQuoted_mark_mark :
    readQuoted mark (mark :: mark :: rest) = following [mark] (readQuoted mark rest) := by
  simp [readQuoted]

theorem readQuoted_cons_of_ne {c : Char} (h : c ≠ mark) :
    readQuoted mark (c :: rest) = following [c] (readQuoted mark rest) := by
  cases rest with
  | nil => simp [readQuoted, h]
  | cons d rest => simp [readQuoted, h]

/-- What is read ends with a mark. -/
theorem eq_append_of_readQuoted {s : List Char} (h : readQuoted mark cs = some (s, rest)) :
    ∃ body, cs = body ++ mark :: rest := by
  fun_induction readQuoted mark cs generalizing s with
  | case1 => cases h
  | case2 =>
      cases h
      exact ⟨[], rfl⟩
  | case3 => cases h
  | case4 tail ih =>
      obtain ⟨later, hread, -⟩ := following_eq_some_iff.mp h
      obtain ⟨body, rfl⟩ := ih hread
      exact ⟨mark :: mark :: body, rfl⟩
  | case5 =>
      cases h
      exact ⟨[], rfl⟩
  | case6 c d tail _ ih =>
      obtain ⟨later, hread, -⟩ := following_eq_some_iff.mp h
      obtain ⟨body, hbody⟩ := ih hread
      exact ⟨c :: body, congrArg (c :: ·) hbody⟩

/-- What comes behind the text after the marks changes nothing, unless a mark would follow the last
one. -/
theorem readQuoted_append {s b : List Char} (h : readQuoted mark cs = some (s, rest))
    (hrest : rest = [] → b.head? ≠ some mark) :
    readQuoted mark (cs ++ b) = some (s, rest ++ b) := by
  fun_induction readQuoted mark cs generalizing s with
  | case1 => cases h
  | case2 =>
      cases h
      exact readQuoted_of_head?_ne (hrest rfl)
  | case3 => cases h
  | case4 tail ih =>
      obtain ⟨later, hread, rfl⟩ := following_eq_some_iff.mp h
      rw [List.cons_append, List.cons_append, readQuoted_mark_mark, ih hread, following_some]
  | case5 d tail hd =>
      cases h
      exact readQuoted_of_head?_ne fun hhead => hd (Option.some.inj hhead)
  | case6 c d tail hc ih =>
      obtain ⟨later, hread, rfl⟩ := following_eq_some_iff.mp h
      rw [List.cons_append, readQuoted_cons_of_ne hc, ih hread, following_some]

/-- A literal is read as the text that it was written for. -/
theorem readQuoted_doubleQuotes (cs : List Char) (h : rest.head? ≠ some quoteMark) :
    readQuoted quoteMark (doubleQuotes cs ++ quoteMark :: rest) = some (cs, rest) := by
  induction cs with
  | nil => exact readQuoted_of_head?_ne h
  | cons c cs ih =>
      by_cases hc : c = quoteMark
      · rw [hc, doubleQuotes_cons_quoteMark, List.cons_append, List.cons_append,
          readQuoted_mark_mark, ih]
        rfl
      · rw [doubleQuotes_cons_of_ne hc, List.cons_append, readQuoted_cons_of_ne hc, ih]
        rfl

end SqlBackend.Sql
