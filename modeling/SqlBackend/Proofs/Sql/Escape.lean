import SqlBackend.Proofs.Sql.Fragment
import SqlBackend.Proofs.Sql.Literal

/-!
# Literals with escapes

MySQL reads a backslash in a literal together with the character after it, and a literal that is written
by doubling quotes leaves backslashes as they are. So a text with a backslash may be read as another one,
and a backslash before a quote lets the literal end elsewhere than it should.
-/

namespace SqlBackend.Sql

/-- The character that begins an escape. -/
def backslash : Char := '\x5C'

/-- The letters that a backslash turns into control characters. -/
def controlEscapes : List (Char × Char) :=
  [('0', '\x00'), ('b', '\x08'), ('n', '\n'), ('r', '\r'), ('t', '\t'), ('Z', '\x1A')]

/-- A character that stands for others in a pattern. -/
def isWildcard (c : Char) : Bool := c == '%' || c == '_'

/-- The text that a backslash and a character stand for together. The backslash of a wildcard stays, so
that patterns can have it; any other gives a control character or the character itself. -/
def escaped (c : Char) : List Char :=
  if isWildcard c then [backslash, c] else [(controlEscapes.lookup c).getD c]

/-- The text of a literal up to the quote that ends it, and what comes after, where two quotes stand for
one and a backslash begins an escape. -/
def readEscaped : List Char → Option (List Char × List Char)
  | [] => none
  | [c] => if c = quoteMark then some ([], []) else none
  | c :: d :: rest =>
    if c = backslash then following (escaped d) (readEscaped rest)
    else if c = quoteMark then
      if d = quoteMark then following [quoteMark] (readEscaped rest) else some ([], d :: rest)
    else following [c] (readEscaped (d :: rest))

/-- No backslash escapes a quote, nor the one that ends the literal. -/
def SparesQuotes : List Char → Prop
  | [] => True
  | [c] => c ≠ backslash
  | c :: d :: rest =>
    if c = backslash then d ≠ quoteMark ∧ SparesQuotes rest else SparesQuotes (d :: rest)

/-- Each backslash stands right before a wildcard. -/
def EscapesOnlyWildcards (cs : List Char) : Prop :=
  ∀ after, backslash :: after <:+ cs → ∃ c ∈ after.head?, isWildcard c = true

section

variable {c d : Char} {cs rest tail s : List Char}

theorem escapesOnlyWildcards_nil : EscapesOnlyWildcards [] := by
  intro after h
  cases List.suffix_nil.mp h

theorem escapesOnlyWildcards_cons_iff (hc : c ≠ backslash) :
    EscapesOnlyWildcards (c :: cs) ↔ EscapesOnlyWildcards cs := by
  constructor
  · intro h after hafter
    exact h after (hafter.trans (List.suffix_cons c cs))
  · intro h after hafter
    rcases List.suffix_cons_iff.mp hafter with heq | hafter
    · exact absurd (List.cons.inj heq).1.symm hc
    · exact h after hafter

theorem escapesOnlyWildcards_backslash_iff :
    EscapesOnlyWildcards (backslash :: cs) ↔
      (∃ c ∈ cs.head?, isWildcard c = true) ∧ EscapesOnlyWildcards cs := by
  constructor
  · intro h
    exact ⟨h cs List.suffix_rfl, fun after hafter => h after (hafter.trans (List.suffix_cons _ cs))⟩
  · rintro ⟨hhead, h⟩ after hafter
    rcases List.suffix_cons_iff.mp hafter with heq | hafter
    · exact (List.cons.inj heq).2 ▸ hhead
    · exact h after hafter

theorem escaped_of_isWildcard (h : isWildcard c = true) : escaped c = [backslash, c] :=
  if_pos h

/-- Of the characters that are no wildcards only the backslash, when it is escaped, is read as a
backslash. -/
theorem eq_backslash_of_escaped {later : List Char} (hc : isWildcard c = false)
    (h : escaped c ++ later = backslash :: s) : c = backslash ∧ later = s := by
  rw [escaped, if_neg (by simp [hc])] at h
  obtain ⟨hhead, htail⟩ := List.cons.inj h
  refine ⟨?_, htail⟩
  cases hlookup : controlEscapes.lookup c with
  | none => rwa [hlookup] at hhead
  | some control =>
      rw [hlookup] at hhead
      obtain ⟨before, after, hmem, -⟩ := List.lookup_eq_some_iff.mp hlookup
      have hother : ∀ entry ∈ controlEscapes, entry.2 ≠ backslash := by decide
      exact absurd hhead (hother (c, control) (by simp [hmem]))

/-- An escape stands for no more characters than it takes, even when a quote counts twice. -/
theorem weight_escaped_le (c : Char) : (escaped c).length + (escaped c).count quoteMark ≤ 2 := by
  rw [escaped]
  split
  · next h =>
      have hc : c ≠ quoteMark := by
        rintro rfl
        exact absurd h (by decide)
      have hb : backslash ≠ quoteMark := by decide
      simp [hc, hb]
  · exact Nat.add_le_add_left List.count_le_length 1

theorem readEscaped_backslash :
    readEscaped (backslash :: d :: rest) = following (escaped d) (readEscaped rest) := by
  simp [readEscaped]

theorem readEscaped_quoteMark_quoteMark :
    readEscaped (quoteMark :: quoteMark :: rest) = following [quoteMark] (readEscaped rest) := by
  simp [readEscaped, show quoteMark ≠ backslash by decide]

theorem readEscaped_of_head?_ne (h : rest.head? ≠ some quoteMark) :
    readEscaped (quoteMark :: rest) = some ([], rest) := by
  cases rest with
  | nil => simp [readEscaped]
  | cons d rest =>
      have hd : d ≠ quoteMark := fun heq => h (congrArg some heq)
      simp [readEscaped, hd, show quoteMark ≠ backslash by decide]

theorem readEscaped_cons_of_ne (hb : c ≠ backslash) (hq : c ≠ quoteMark) :
    readEscaped (c :: rest) = following [c] (readEscaped rest) := by
  cases rest with
  | nil => simp [readEscaped, hq]
  | cons d rest => simp [readEscaped, hb, hq]

/-- A character that begins no escape is read as it was written. -/
theorem readEscaped_doubleQuotes_cons (hc : c ≠ backslash) :
    readEscaped (doubleQuotes (c :: cs) ++ rest) =
      following [c] (readEscaped (doubleQuotes cs ++ rest)) := by
  by_cases hq : c = quoteMark
  · rw [hq, doubleQuotes_cons_quoteMark, List.cons_append, List.cons_append,
      readEscaped_quoteMark_quoteMark]
  · rw [doubleQuotes_cons_of_ne hq, List.cons_append, readEscaped_cons_of_ne hc hq]

theorem length_doubleQuotes (cs : List Char) :
    (doubleQuotes cs).length = cs.length + cs.count quoteMark := by
  induction cs with
  | nil => rfl
  | cons c cs ih =>
      by_cases hc : c = quoteMark
      · rw [hc, doubleQuotes_cons_quoteMark, List.count_cons_self]
        simp only [List.length_cons, ih]
        omega
      · rw [doubleQuotes_cons_of_ne hc, List.count_cons_of_ne hc]
        simp only [List.length_cons, ih]
        omega

/-- A literal is longer than the text that is read from it, even when each quote counts twice. -/
theorem weight_of_readEscaped (h : readEscaped cs = some (s, rest)) :
    s.length + s.count quoteMark + rest.length < cs.length := by
  fun_induction readEscaped cs generalizing s with
  | case1 => cases h
  | case2 =>
      cases h
      simp
  | case3 => cases h
  | case4 d tail ih =>
      obtain ⟨later, hread, rfl⟩ := following_eq_some_iff.mp h
      have hlater := ih hread
      have hescaped := weight_escaped_le d
      simp only [List.length_append, List.count_append, List.length_cons]
      omega
  | case5 tail _ ih =>
      obtain ⟨later, hread, rfl⟩ := following_eq_some_iff.mp h
      have hlater := ih hread
      simp only [List.cons_append, List.nil_append, List.length_cons, List.count_cons_self]
      omega
  | case6 d tail _ _ =>
      cases h
      simp
  | case7 c d tail _ hq ih =>
      obtain ⟨later, hread, rfl⟩ := following_eq_some_iff.mp h
      have hlater := ih hread
      simp only [List.cons_append, List.nil_append, List.length_cons,
        List.count_cons_of_ne hq] at hlater ⊢
      omega

theorem doubleQuotes_backslash (cs : List Char) :
    doubleQuotes (backslash :: cs) = backslash :: doubleQuotes cs :=
  doubleQuotes_cons_of_ne (by decide) cs

/-- A backslash that stands last in a text escapes the quote after it, and the literal does not end with
the text. -/
theorem not_readEscaped_of_trailing :
    readEscaped (backslash :: quoteMark :: tail) ≠ some (s, tail) := by
  intro h
  rw [readEscaped_backslash] at h
  obtain ⟨later, hread, -⟩ := following_eq_some_iff.mp h
  have hweight := weight_of_readEscaped hread
  omega

/-- With one quote too many in front, a literal ends in the middle of its text or behind it. -/
theorem not_readEscaped_of_shifted :
    readEscaped (quoteMark :: (doubleQuotes cs ++ quoteMark :: tail)) ≠ some (s, tail) := by
  induction cs generalizing s with
  | nil =>
      intro h
      rw [doubleQuotes_nil, List.nil_append, readEscaped_quoteMark_quoteMark] at h
      obtain ⟨later, hread, -⟩ := following_eq_some_iff.mp h
      have hweight := weight_of_readEscaped hread
      omega
  | cons c cs ih =>
      intro h
      by_cases hc : c = quoteMark
      · rw [hc, doubleQuotes_cons_quoteMark, List.cons_append, List.cons_append,
          readEscaped_quoteMark_quoteMark] at h
        obtain ⟨later, hread, -⟩ := following_eq_some_iff.mp h
        exact ih hread
      · have hhead : (doubleQuotes (c :: cs) ++ quoteMark :: tail).head? ≠ some quoteMark := by
          rw [doubleQuotes_cons_of_ne hc]
          exact fun heq => hc (Option.some.inj heq)
        rw [readEscaped_of_head?_ne hhead, Option.some.injEq, Prod.mk.injEq] at h
        have hlength := congrArg List.length h.2
        simp only [List.length_append, List.length_cons] at hlength
        omega

theorem not_readEscaped_of_escapedQuote :
    readEscaped (doubleQuotes (backslash :: quoteMark :: cs) ++ quoteMark :: tail) ≠
      some (s, tail) := by
  intro h
  rw [doubleQuotes_backslash, doubleQuotes_cons_quoteMark, List.cons_append, List.cons_append,
    List.cons_append, readEscaped_backslash] at h
  obtain ⟨later, hread, -⟩ := following_eq_some_iff.mp h
  exact not_readEscaped_of_shifted hread

theorem readEscaped_doubleQuotes_backslash (hd : d ≠ quoteMark) :
    readEscaped (doubleQuotes (backslash :: d :: cs) ++ rest) =
      following (escaped d) (readEscaped (doubleQuotes cs ++ rest)) := by
  rw [doubleQuotes_backslash, doubleQuotes_cons_of_ne hd, List.cons_append, List.cons_append,
    readEscaped_backslash]

/-- A backslash before another character is lost, unless the character is a wildcard. -/
theorem isWildcard_of_readEscaped (hd : d ≠ quoteMark)
    (h : readEscaped (doubleQuotes (backslash :: d :: cs) ++ quoteMark :: tail) =
      some (backslash :: d :: cs, tail)) : isWildcard d = true := by
  cases hwild : isWildcard d with
  | true => rfl
  | false =>
      rw [readEscaped_doubleQuotes_backslash hd] at h
      obtain ⟨later, hread, heq⟩ := following_eq_some_iff.mp h
      obtain ⟨rfl, rfl⟩ := eq_backslash_of_escaped hwild heq.symm
      -- The rest would have to be read as one character more than it has.
      have hweight := weight_of_readEscaped hread
      rw [List.count_cons_of_ne hd, List.length_append, length_doubleQuotes] at hweight
      simp only [List.length_cons] at hweight
      omega

/-- A literal is read as the text that it was written for exactly if the text has no backslashes but
those before wildcards. -/
theorem readEscaped_doubleQuotes_eq_some_iff (h : tail.head? ≠ some quoteMark) :
    readEscaped (doubleQuotes cs ++ quoteMark :: tail) = some (cs, tail) ↔
      EscapesOnlyWildcards cs := by
  induction cs using SparesQuotes.induct with
  | case1 => exact iff_of_true (readEscaped_of_head?_ne h) escapesOnlyWildcards_nil
  | case2 c =>
      by_cases hc : c = backslash
      · rw [hc, escapesOnlyWildcards_backslash_iff, doubleQuotes_backslash]
        exact iff_of_false not_readEscaped_of_trailing (by simp)
      · rw [escapesOnlyWildcards_cons_iff hc, readEscaped_doubleQuotes_cons hc, doubleQuotes_nil]
        exact iff_of_true (by rw [List.nil_append, readEscaped_of_head?_ne h]; rfl)
          escapesOnlyWildcards_nil
  | case3 d rest ih =>
      rw [escapesOnlyWildcards_backslash_iff]
      by_cases hd : isWildcard d = true
      · have hquote : d ≠ quoteMark := by
          rintro rfl
          exact absurd hd (by decide)
        have hbackslash : d ≠ backslash := by
          rintro rfl
          exact absurd hd (by decide)
        rw [escapesOnlyWildcards_cons_iff hbackslash, ← ih,
          readEscaped_doubleQuotes_backslash hquote, escaped_of_isWildcard hd,
          following_eq_some_iff]
        simp [hd]
      · refine iff_of_false (fun hread => ?_) (fun hkept => hd (by simpa using hkept.1))
        by_cases hquote : d = quoteMark
        · rw [hquote] at hread
          exact not_readEscaped_of_escapedQuote hread
        · exact hd (isWildcard_of_readEscaped hquote hread)
  | case4 c d rest hc ih =>
      rw [escapesOnlyWildcards_cons_iff hc, readEscaped_doubleQuotes_cons hc,
        following_eq_some_iff, ← ih]
      simp

/-- The literal of a text ends where it was meant to exactly if no backslash escapes a quote. -/
theorem exists_readEscaped_doubleQuotes_iff (h : tail.head? ≠ some quoteMark) :
    (∃ s, readEscaped (doubleQuotes cs ++ quoteMark :: tail) = some (s, tail)) ↔
      SparesQuotes cs := by
  induction cs using SparesQuotes.induct with
  | case1 => exact iff_of_true ⟨[], readEscaped_of_head?_ne h⟩ trivial
  | case2 c =>
      by_cases hc : c = backslash
      · rw [hc, doubleQuotes_backslash]
        exact iff_of_false (fun ⟨_, hs⟩ => not_readEscaped_of_trailing hs) (fun hne => hne rfl)
      · rw [readEscaped_doubleQuotes_cons hc, doubleQuotes_nil, List.nil_append,
          readEscaped_of_head?_ne h]
        exact iff_of_true ⟨_, rfl⟩ hc
  | case3 d rest ih =>
      rw [SparesQuotes, if_pos rfl]
      by_cases hd : d = quoteMark
      · rw [hd]
        exact iff_of_false (fun ⟨_, hs⟩ => not_readEscaped_of_escapedQuote hs)
          (fun hspared => hspared.1 rfl)
      · rw [readEscaped_doubleQuotes_backslash hd, exists_following_iff, ih, and_iff_right hd]
  | case4 c d rest hc ih =>
      rw [SparesQuotes, if_neg hc, readEscaped_doubleQuotes_cons hc, exists_following_iff, ih]

end

/-- In the call that MySQL gets, the literal after the width is read as the padding and ends before the
last parenthesis exactly if the padding has no backslashes but those right before a wildcard. It ends
there, whatever it is read as, exactly if no backslash escapes a quote. There is such a call unless the
width has more than 4300 digits. -/
theorem literal_keeps_padding_iff (field : String) (width : Nat) {pad : String} (hpad : pad ≠ "") :
    ∃ literal : List Char,
      (Dialect.mysql.fragment "lpad" [.text field, .int width, .text pad] =
        if width < 10 ^ 4300 then
          .ok (.text ("LPAD(" ++ field ++ ", " ++ width.repr ++ ", " ++
            String.ofList (quoteMark :: literal)))
        else .error (.numeralTooLong none)) ∧
      (readEscaped literal = some (pad.toList, [')']) ↔ EscapesOnlyWildcards pad.toList) ∧
      ((∃ s, readEscaped literal = some (s, [')'])) ↔ SparesQuotes pad.toList) := by
  refine ⟨doubleQuotes pad.toList ++ quoteMark :: [')'], ?_,
    readEscaped_doubleQuotes_eq_some_iff (by decide), exists_readEscaped_doubleQuotes_iff (by decide)⟩
  have hclosed : quoteLiteral pad ++ ")" =
      String.ofList (quoteMark :: (doubleQuotes pad.toList ++ quoteMark :: [')'])) := by
    rw [← String.toList_inj]
    simp
  refine (Engine.fragment_lpad .mysql field width hpad).trans ?_
  rw [Engine.lpad, lpadCall, ← hclosed, ← String.append_assoc]

/-- A padding with quotes and with the backslash of a wildcard. -/
def quotedPadding : String := "'\\%''"

theorem literal_keeps_quotedPadding :
    quotedPadding ≠ "" ∧
      ∃ literal : List Char,
        Dialect.mysql.fragment "lpad" [.text "id", .int 3, .text quotedPadding] =
          .ok (.text ("LPAD(id, 3, " ++ String.ofList (quoteMark :: literal))) ∧
        readEscaped literal = some (quotedPadding.toList, [')']) := by
  have hkept : EscapesOnlyWildcards quotedPadding.toList := by
    rw [show quotedPadding.toList = [quoteMark, backslash, '%', quoteMark, quoteMark] from rfl,
      escapesOnlyWildcards_cons_iff (by decide), escapesOnlyWildcards_backslash_iff,
      escapesOnlyWildcards_cons_iff (by decide), escapesOnlyWildcards_cons_iff (by decide),
      escapesOnlyWildcards_cons_iff (by decide)]
    exact ⟨⟨'%', rfl, rfl⟩, escapesOnlyWildcards_nil⟩
  obtain ⟨literal, hcall, hread, -⟩ :=
    literal_keeps_padding_iff "id" 3 (show quotedPadding ≠ "" by decide)
  have hwidth : 3 < 10 ^ 4300 := Numeric.lt_of_lt_billion (by decide)
  exact ⟨by decide, literal, hcall.trans (if_pos hwidth), hread.mpr hkept⟩

/-- A padding whose backslash turns its first quote into text. -/
def breakingPadding : String := "\\') OR 1=1 -- "

/-- The literal of a padding ends early, and the rest of the padding is part of the statement. -/
theorem literal_ends_early_for_breakingPadding :
    breakingPadding ≠ "" ∧
      Dialect.mysql.fragment "lpad" [.text "id", .int 3, .text breakingPadding] =
        .ok (.text ("LPAD(id, 3, " ++
          String.ofList (quoteMark :: "\\'') OR 1=1 -- ')".toList))) ∧
      readEscaped "\\'') OR 1=1 -- ')".toList =
        some ([quoteMark], ") OR 1=1 -- ')".toList) :=
  ⟨by decide, rfl, by decide⟩

end SqlBackend.Sql
