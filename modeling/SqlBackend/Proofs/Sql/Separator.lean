import SqlBackend.Proofs.Sql.Token
import Mathlib.Data.List.TakeWhile

/-!
# Texts side by side

Two texts that stand side by side have the tokens of the one and then those of the other, so long as a
blank, a comma, a parenthesis or a complement stands where they meet (`tokens?_append`). So the tokens of a
text that is put together from others are known from the tokens of its parts (`ScansOpen.fill`).
-/

namespace SqlBackend.Sql

open SqlBackend.Text

/-- A character that never belongs to one token with what stands beside it. -/
def isSeparator (c : Char) : Bool := isSpace c || c ∈ ['(', ')', ',', '~']

/-- Between two texts there is a separator. -/
def Separated (a b : List Char) : Prop :=
  (∃ c ∈ a.getLast?, isSeparator c = true) ∨ ∃ d ∈ b.head?, isSeparator d = true

section

variable {a b cs rest s : List Char} {c d : Char} {ts us : List Token}

theorem afterLine_append (h : afterLine cs = some rest) : afterLine (cs ++ b) = some (rest ++ b) := by
  induction cs with
  | nil => cases h
  | cons c cs ih =>
      rw [afterLine] at h
      rw [List.cons_append, afterLine]
      split at h
      · next hc =>
          cases h
          rw [if_pos hc]
      · next hc => rw [if_neg hc, ih h]

theorem afterComment_append (h : afterComment cs = some rest) :
    afterComment (cs ++ b) = some (rest ++ b) := by
  fun_induction afterComment cs with
  | case1 => cases h
  | case2 => cases h
  | case3 c d tail hend =>
      cases h
      rw [List.cons_append, List.cons_append, afterComment, if_pos hend]
  | case4 c d tail hend ih =>
      rw [List.cons_append, List.cons_append, afterComment, if_neg hend, ← List.cons_append, ih h]

theorem signed?_of_separator (h : isSeparator c = true ∨ isSeparator d = true) :
    signed? c (d :: rest) = some ([loneSign c], d :: rest) := by
  have hminus : ¬ (c = '-' ∧ d = '-') := by
    rintro ⟨rfl, rfl⟩
    revert h
    decide
  have hslash : ¬ (c = '/' ∧ d = '*') := by
    rintro ⟨rfl, rfl⟩
    revert h
    decide
  have hpair : pairedSigns.lookup (c, d) = none := by
    rw [List.lookup_eq_none_iff]
    intro pair hmem
    rw [bne_iff_ne]
    intro heq
    have hsigns : ∀ pair ∈ pairedSigns,
        isSeparator pair.1.1 = false ∧ isSeparator pair.1.2 = false := by decide
    obtain ⟨hc, hd⟩ := hsigns pair hmem
    rw [← heq] at hc hd
    simp [hc, hd] at h
  rw [signed?, if_neg hminus, if_neg hslash, hpair]

theorem signed?_append (h : signed? c cs = some (ts, rest))
    (hseparated : cs = [] → isSeparator c = true ∨ ∃ d ∈ b.head?, isSeparator d = true) :
    signed? c (cs ++ b) = some (ts, rest ++ b) := by
  cases cs with
  | nil =>
      cases h
      cases b with
      | nil => rfl
      | cons d b =>
          refine signed?_of_separator ((hseparated rfl).imp_right ?_)
          rintro ⟨_, ⟨⟩, hd⟩
          exact hd
  | cons d tail =>
      rw [signed?] at h
      rw [List.cons_append, signed?]
      split_ifs at h ⊢ with hline hcomment
      · obtain ⟨later, hlater, hpair⟩ := Option.map_eq_some_iff.mp h
        cases hpair
        rw [afterLine_append hlater]
        rfl
      · obtain ⟨later, hlater, hpair⟩ := Option.map_eq_some_iff.mp h
        cases hpair
        rw [afterComment_append hlater]
        rfl
      · split at h
        · cases h
          rfl
        · cases h
          rfl

theorem isSeparator_of_isSpace (h : isSpace c = true) : isSeparator c = true := by
  rw [isSeparator, h, Bool.true_or]

theorem isWordChar_of_isSeparator (h : isSeparator c = true) : isWordChar c = false := by
  simp only [isSeparator, isSpace, List.mem_cons, List.not_mem_nil, or_false, Bool.or_eq_true,
    decide_eq_true_eq] at h
  rcases h with (rfl | rfl | rfl | rfl | rfl) | rfl | rfl | rfl | rfl <;> decide

theorem not_separator_of_quote {mark : Char} (h : mark = quoteMark ∨ isNameMark mark = true) :
    isSeparator mark = false := by
  simp only [isNameMark, List.mem_cons, List.not_mem_nil, or_false, decide_eq_true_eq] at h
  rcases h with rfl | rfl | rfl <;> decide

/-- What stands between quotes is read alike whatever comes behind a separator. -/
theorem readQuoted_append_of_separated {mark : Char} (hmark : isSeparator mark = false)
    (h : readQuoted mark cs = some (s, rest)) (hseparated : rest = [] → Separated cs b) :
    readQuoted mark (cs ++ b) = some (s, rest ++ b) := by
  refine readQuoted_append h fun hnil hhead => ?_
  subst hnil
  obtain ⟨body, rfl⟩ := eq_append_of_readQuoted h
  rcases hseparated rfl with ⟨c, hlast, hc⟩ | ⟨c, hfirst, hc⟩
  · rw [List.getLast?_concat, Option.mem_some] at hlast
    rw [← hlast, hmark] at hc
    cases hc
  · rw [hhead, Option.mem_some] at hfirst
    rw [← hfirst, hmark] at hc
    cases hc

/-- Only the end of the first text matters. -/
theorem Separated.of_suffix (h : Separated a b) (hsuffix : cs <:+ a) (hcs : cs ≠ []) :
    Separated cs b := by
  obtain ⟨before, rfl⟩ := hsuffix
  obtain ⟨c, hc⟩ := Option.ne_none_iff_exists'.mp (mt List.getLast?_eq_none_iff.mp hcs)
  rwa [Separated, List.getLast?_append, hc, Option.some_or, ← hc] at h

/-- The front of a text that is cut where a predicate first fails stays the same when the predicate
fails for what comes after, too. -/
theorem span_append {p : Char → Bool} (h : cs.dropWhile p = [] → ∀ d ∈ b.head?, p d = false) :
    (cs ++ b).takeWhile p = cs.takeWhile p ∧ (cs ++ b).dropWhile p = cs.dropWhile p ++ b := by
  induction cs with
  | nil =>
      cases b with
      | nil => exact ⟨rfl, rfl⟩
      | cons d b => simp [h rfl d rfl]
  | cons c cs ih =>
      by_cases hc : p c = true
      · rw [List.dropWhile_cons_of_pos hc] at h
        simp [hc, ih h]
      · simp [hc]

/-- A word ends where a separator begins. -/
theorem not_wordChar_of_separated (hc : isWordChar c = true) (hcs : cs.dropWhile isWordChar = [])
    (h : Separated (c :: cs) b) : ∀ d ∈ b.head?, isWordChar d = false := by
  have hwords : ∀ e ∈ c :: cs, isWordChar e = true :=
    List.forall_mem_cons.mpr ⟨hc, List.dropWhile_eq_nil_iff.mp hcs⟩
  rcases h with ⟨e, hlast, he⟩ | ⟨e, hfirst, he⟩
  · have hword := hwords e (List.mem_of_getLast? hlast)
    rw [isWordChar_of_isSeparator he] at hword
    cases hword
  · intro d hd
    cases hfirst.symm.trans hd
    exact isWordChar_of_isSeparator he

theorem lexeme?_append (h : lexeme? a = some (ts, rest)) (hseparated : rest = [] → Separated a b) :
    lexeme? (a ++ b) = some (ts, rest ++ b) := by
  cases a with
  | nil => cases h
  | cons c cs =>
      have hquoted {mark : Char} {token : List Char → List Token} (hmark : isSeparator mark = false)
          (hmap : (readQuoted mark cs).map (Prod.map token id) = some (ts, rest)) :
          (readQuoted mark (cs ++ b)).map (Prod.map token id) = some (ts, rest ++ b) := by
        obtain ⟨⟨s, later⟩, hread, hpair⟩ := Option.map_eq_some_iff.mp hmap
        cases hpair
        have hcs : cs ≠ [] := by
          rintro rfl
          cases hread
        rw [readQuoted_append_of_separated hmark hread fun hnil =>
          (hseparated hnil).of_suffix (List.suffix_cons c cs) hcs]
        rfl
      rw [lexeme?] at h
      rw [List.cons_append, lexeme?]
      split_ifs at h ⊢ with hspace hquote hname hword
      · cases h
        rfl
      · exact hquoted (not_separator_of_quote (.inl hquote)) h
      · exact hquoted (not_separator_of_quote (.inr hname)) h
      · cases h
        obtain ⟨htake, hdrop⟩ := span_append fun hnil =>
          not_wordChar_of_separated hword hnil (hseparated hnil)
        rw [htake, hdrop]
      · refine signed?_append h fun hnil => ?_
        subst hnil
        cases h
        refine (hseparated rfl).imp_left ?_
        rintro ⟨_, ⟨⟩, hc⟩
        exact hc

theorem tokens?_of_lexeme? (h : lexeme? cs = some (ts, rest)) :
    tokens? cs = (tokens? rest).map (ts ++ ·) := by
  rw [tokens?]
  split
  · next hnone =>
      rw [h] at hnone
      cases hnone
  · next hsome =>
      cases h.symm.trans hsome
      rfl

theorem tokens?_nil : tokens? [] = some [] := by
  rw [tokens?]
  rfl

/-- Two texts that meet at a separator have the tokens of the one and then those of the other. -/
theorem tokens?_append (hseparated : Separated a b) (ha : tokens? a = some ts)
    (hb : tokens? b = some us) : tokens? (a ++ b) = some (ts ++ us) := by
  -- Along the lexemes of the first text; what separates it from the second separates its last lexeme.
  fun_induction tokens? a generalizing ts with
  | case1 cs hnone hempty =>
      cases ha
      rwa [List.isEmpty_iff.mp hempty, List.nil_append, List.nil_append]
  | case2 => cases ha
  | case3 cs first rest hsome ih =>
      obtain ⟨later, hlater, rfl⟩ := Option.map_eq_some_iff.mp ha
      rw [tokens?_of_lexeme? (lexeme?_append hsome fun _ => hseparated)]
      by_cases hrest : rest = []
      · subst hrest
        rw [tokens?_nil] at hlater
        cases hlater
        rw [List.nil_append, hb, List.append_nil]
        rfl
      · have hsuffix : rest <:+ cs := by
          cases cs with
          | nil => cases hsome
          | cons c cs => exact (suffix_of_lexeme? hsome).trans (List.suffix_cons c cs)
        rw [ih (hseparated.of_suffix hsuffix hrest) hlater, List.append_assoc]
        rfl

theorem lexeme?_of_isWordChar (hc : isWordChar c = true) :
    lexeme? (c :: cs) = some ([word (c :: cs.takeWhile isWordChar)], cs.dropWhile isWordChar) := by
  have hspace : isSpace c = false := by
    cases hc' : isSpace c with
    | false => rfl
    | true =>
        rw [isWordChar_of_isSeparator (isSeparator_of_isSpace hc')] at hc
        cases hc
  have hquote : c ≠ quoteMark := by
    rintro rfl
    revert hc
    decide
  have hname : isNameMark c = false := by
    cases hc' : isNameMark c with
    | false => rfl
    | true =>
        simp only [isNameMark, List.mem_cons, List.not_mem_nil, or_false, decide_eq_true_eq] at hc'
        rcases hc' with rfl | rfl <;> revert hc <;> decide
  simp [lexeme?, hspace, hquote, hname, hc]

/-- A word is one token. -/
theorem tokens?_of_forall_isWordChar (hcs : cs ≠ []) (h : ∀ c ∈ cs, isWordChar c = true) :
    tokens? cs = some [word cs] := by
  cases cs with
  | nil => exact absurd rfl hcs
  | cons c cs =>
      obtain ⟨hc, hrest⟩ := List.forall_mem_cons.mp h
      rw [tokens?_of_lexeme? (lexeme?_of_isWordChar hc), List.dropWhile_eq_nil_iff.mpr hrest,
        List.takeWhile_eq_self_iff.mpr hrest, tokens?_nil]
      rfl

theorem isWordChar_of_isAsciiDigit (h : isAsciiDigit c = true) : isWordChar c = true := by
  simp [isWordChar, h]

/-- A number in base ten is one token. -/
theorem tokens?_repr (n : Nat) : tokens? n.repr.toList = some [.number n] := by
  have hdigits : ∀ c ∈ n.repr.toList, isAsciiDigit c = true := fun _ => isAsciiDigit_of_mem_repr
  have hnonempty : n.repr.toList ≠ [] := by
    rw [Nat.toList_repr]
    exact Nat.toDigits_ne_nil
  rw [tokens?_of_forall_isWordChar hnonempty fun c hc => isWordChar_of_isAsciiDigit (hdigits c hc),
    word, if_pos (List.all_eq_true.mpr hdigits), ofAsciiDigits_repr]

/-- Quotes that are written twice are no other characters. -/
theorem mem_doubleQuotes_iff : c ∈ doubleQuotes cs ↔ c ∈ cs := by
  induction cs with
  | nil => exact Iff.rfl
  | cons d cs ih =>
      by_cases hd : d = quoteMark
      · rw [hd, doubleQuotes_cons_quoteMark, List.mem_cons, List.mem_cons, List.mem_cons, ih,
          or_self_left]
      · rw [doubleQuotes_cons_of_ne hd, List.mem_cons, List.mem_cons, ih]

/-- The literal of a text is one token. -/
theorem tokens?_quoteLiteral (s : String) : tokens? (quoteLiteral s).toList = some [.text s.toList] := by
  have hlexeme : lexeme? (quoteLiteral s).toList = some ([.text s.toList], []) := by
    rw [toList_quoteLiteral, List.cons_append, lexeme?, if_neg (by decide), if_pos rfl,
      readQuoted_doubleQuotes s.toList (by simp)]
    rfl
  rw [tokens?_of_lexeme? hlexeme, tokens?_nil]
  rfl

end

/-- A text that can stand in a statement, with its tokens. -/
structure Scans (s : String) (ts : List Token) : Prop where
  tokens : tokens? s.toList = some ts
  noNull : '\x00' ∉ s.toList

/-- Such a text that ends with a separator. -/
structure ScansOpen (s : String) (ts : List Token) : Prop extends Scans s ts where
  ends : ∃ c ∈ s.toList.getLast?, isSeparator c = true

/-- Such a text that begins and ends with a separator. -/
structure ScansJoint (s : String) (ts : List Token) : Prop extends ScansOpen s ts where
  begins : ∃ c ∈ s.toList.head?, isSeparator c = true

instance (s : String) (ts : List Token) : Decidable (Scans s ts) :=
  decidable_of_iff (tokens? s.toList = some ts ∧ '\x00' ∉ s.toList)
    ⟨fun h => ⟨h.1, h.2⟩, fun h => ⟨h.tokens, h.noNull⟩⟩

instance (s : String) (ts : List Token) : Decidable (ScansOpen s ts) :=
  -- As a test of one character, for an existence could be searched for among all of them.
  decidable_of_iff (Scans s ts ∧ s.toList.getLast?.any isSeparator = true)
    ⟨fun h => ⟨h.1, (Option.any_eq_true _ _).mp h.2⟩,
      fun h => ⟨h.toScans, (Option.any_eq_true _ _).mpr h.ends⟩⟩

instance (s : String) (ts : List Token) : Decidable (ScansJoint s ts) :=
  decidable_of_iff (ScansOpen s ts ∧ s.toList.head?.any isSeparator = true)
    ⟨fun h => ⟨h.1, (Option.any_eq_true _ _).mp h.2⟩,
      fun h => ⟨h.toScansOpen, (Option.any_eq_true _ _).mpr h.begins⟩⟩

section

variable {s t x : String} {ss ts xs : List Token}

theorem Scans.append (hs : Scans s ss) (ht : Scans t ts) (h : Separated s.toList t.toList) :
    Scans (s ++ t) (ss ++ ts) where
  tokens := by
    rw [String.toList_append]
    exact tokens?_append h hs.tokens ht.tokens
  noNull := by
    rw [String.toList_append, List.mem_append, not_or]
    exact ⟨hs.noNull, ht.noNull⟩

theorem ScansOpen.append (hs : ScansOpen s ss) (hx : Scans x xs) : Scans (s ++ x) (ss ++ xs) :=
  hs.toScans.append hx (.inl hs.ends)

theorem Scans.joint (hx : Scans x xs) (ht : ScansJoint t ts) : ScansOpen (x ++ t) (xs ++ ts) where
  toScans := hx.append ht.toScans (.inr ht.begins)
  ends := by
    obtain ⟨c, hlast, hc⟩ := ht.ends
    refine ⟨c, ?_, hc⟩
    rw [String.toList_append, List.getLast?_append, hlast, Option.some_or]
    rfl

/-- A text goes on with another one that is put in, and with what stands behind that. -/
theorem ScansOpen.fill (hs : ScansOpen s ss) (hx : Scans x xs) (ht : ScansJoint t ts) :
    ScansOpen (s ++ x ++ t) (ss ++ xs ++ ts) :=
  (hs.append hx).joint ht

theorem scans_repr (n : Nat) : Scans n.repr [.number n] where
  tokens := tokens?_repr n
  noNull hmem := absurd (isAsciiDigit_of_mem_repr hmem) (by decide)

theorem scans_quoteLiteral (h : '\x00' ∉ s.toList) : Scans (quoteLiteral s) [.text s.toList] where
  tokens := tokens?_quoteLiteral s
  noNull hmem := by
    rw [toList_quoteLiteral, List.mem_append, List.mem_cons, mem_doubleQuotes_iff,
      List.mem_singleton] at hmem
    rcases hmem with (heq | hmem) | heq
    · exact absurd heq (by decide)
    · exact h hmem
    · exact absurd heq (by decide)

end

end SqlBackend.Sql
