import SqlBackend.Proofs.Sql.Fragment
import SqlBackend.Proofs.Sql.Separator

/-!
# Literals that end where they should

By the standard rule a literal is read from one quote to the next that stands alone. What is read so is
exactly what a literal was written for: a reader stops at the end of the literal if no quote follows,
and reads nothing else (`readLiteral_eq_some_iff`). In the text for padding the padding has one place,
and the texts on both sides of it do not depend on it (`Engine.exists_place_of_pad`). So whatever the
padding is, it is one token of the whole, and no other token has a part of it.
-/

namespace SqlBackend

namespace Sql

/-- The text of the literal that stands first, and what comes after. -/
def readLiteral : List Char → Option (List Char × List Char)
  | [] => none
  | c :: rest => if c = quoteMark then readQuoted c rest else none

section

variable {cs s rest : List Char}

/-- What is read up to a quote that stands alone was written by doubling quotes. -/
theorem eq_doubleQuotes_of_readQuoted (h : readQuoted quoteMark cs = some (s, rest)) :
    cs = doubleQuotes s ++ quoteMark :: rest ∧ rest.head? ≠ some quoteMark := by
  fun_induction readQuoted quoteMark cs generalizing s with
  | case1 => cases h
  | case2 =>
      cases h
      exact ⟨rfl, by simp⟩
  | case3 => cases h
  | case4 tail ih =>
      obtain ⟨later, hread, rfl⟩ := following_eq_some_iff.mp h
      obtain ⟨htail, hrest⟩ := ih hread
      refine ⟨?_, hrest⟩
      rw [htail, List.singleton_append, doubleQuotes_cons_quoteMark, List.cons_append, List.cons_append]
  | case5 d tail hd =>
      cases h
      exact ⟨rfl, fun hhead => hd (Option.some.inj hhead)⟩
  | case6 c d tail hc ih =>
      obtain ⟨later, hread, rfl⟩ := following_eq_some_iff.mp h
      obtain ⟨htail, hrest⟩ := ih hread
      refine ⟨?_, hrest⟩
      rw [htail, List.singleton_append, doubleQuotes_cons_of_ne hc, List.cons_append]

/-- A text is read, up to what comes after, from its literal and from nothing else. -/
theorem readLiteral_eq_some_iff {s : String} :
    readLiteral cs = some (s.toList, rest) ↔
      cs = (quoteLiteral s).toList ++ rest ∧ rest.head? ≠ some quoteMark := by
  have hliteral : (quoteLiteral s).toList ++ rest =
      quoteMark :: (doubleQuotes s.toList ++ quoteMark :: rest) := by
    simp
  rw [hliteral]
  constructor
  · intro h
    cases cs with
    | nil => cases h
    | cons c cs =>
        rw [readLiteral] at h
        split at h
        · next hc =>
            subst hc
            obtain ⟨rfl, hrest⟩ := eq_doubleQuotes_of_readQuoted h
            exact ⟨rfl, hrest⟩
        · cases h
  · rintro ⟨rfl, hrest⟩
    rw [readLiteral, if_pos rfl, readQuoted_doubleQuotes s.toList hrest]

theorem readLiteral_quoteLiteral (s : String) (h : rest.head? ≠ some quoteMark) :
    readLiteral ((quoteLiteral s).toList ++ rest) = some (s.toList, rest) :=
  readLiteral_eq_some_iff.mpr ⟨rfl, h⟩

/-- The text is read back from its literal. -/
theorem quoteLiteral_injective : Function.Injective quoteLiteral := by
  intro s t h
  have hs : readLiteral ((quoteLiteral s).toList ++ []) = some (s.toList, []) :=
    readLiteral_quoteLiteral s (by simp)
  rw [h, readLiteral_quoteLiteral t (by simp), Option.some.injEq, Prod.mk.injEq] at hs
  exact (String.toList_inj.mp hs.1).symm

end

/-- A literal between two separated texts is one token, whatever stands in it. -/
theorem tokens?_around_quoteLiteral {before after : String} {front back : List Token}
    (hends : ∃ c ∈ before.toList.getLast?, isSeparator c = true)
    (hbegins : ∃ c ∈ after.toList.head?, isSeparator c = true)
    (hfront : tokens? before.toList = some front) (hback : tokens? after.toList = some back)
    (s : String) :
    tokens? (before ++ quoteLiteral s ++ after).toList = some (front ++ .text s.toList :: back) := by
  have hbegun : tokens? (before ++ quoteLiteral s).toList = some (front ++ [.text s.toList]) := by
    rw [String.toList_append]
    exact tokens?_append (.inl hends) hfront (tokens?_quoteLiteral s)
  rw [String.toList_append, tokens?_append (.inr hbegins) hbegun hback, List.append_assoc,
    List.singleton_append]

/-- The call for padding, up to the literal of the padding. -/
def callBeforePad (field : String) (width : Nat) : String :=
  "LPAD(" ++ field ++ ", " ++ width.repr ++ ", "

theorem lpadCall_eq (field : String) (width : Nat) (pad : String) :
    lpadCall field width.repr pad = callBeforePad field width ++ quoteLiteral pad ++ ")" := rfl

/-- The cases for padding, up to the literal of the padding. -/
def casesBeforePad (field : String) (width : Nat) : String :=
  "(CASE WHEN LENGTH(" ++ field ++ ") >= " ++ width.repr ++ " THEN SUBSTR(" ++ field ++ ", 1, "
    ++ width.repr ++ ") ELSE SUBSTR(" ++ "REPLACE(HEX(ZEROBLOB(" ++ width.repr ++ ")), '00', "

/-- The cases for padding, behind the literal of the padding. -/
def casesAfterPad (field : String) (width : Nat) : String :=
  ")" ++ ", 1, " ++ width.repr ++ " - LENGTH(" ++ field ++ ")) || " ++ field ++ " END)"

theorem lpadByCases_eq (field : String) (width : Nat) (pad : String) :
    lpadByCases field width.repr pad =
      casesBeforePad field width ++ quoteLiteral pad ++ casesAfterPad field width := by
  unfold lpadByCases padding casesBeforePad casesAfterPad
  simp only [String.append_assoc]

theorem getLast?_callBeforePad (field : String) (width : Nat) :
    (callBeforePad field width).toList.getLast? = some ' ' := by
  rw [callBeforePad, String.toList_append, List.getLast?_append]
  rfl

theorem getLast?_casesBeforePad (field : String) (width : Nat) :
    (casesBeforePad field width).toList.getLast? = some ' ' := by
  unfold casesBeforePad
  rw [String.toList_append, List.getLast?_append]
  rfl

theorem head?_casesAfterPad (field : String) (width : Nat) :
    (casesAfterPad field width).toList.head? = some ')' := by
  unfold casesAfterPad
  simp only [String.append_assoc, String.toList_append]
  rfl

/-- The tokens of the cases up to the literal of the padding. -/
def casesTokensBefore (ts : List Token) (width : Nat) : List Token :=
  [[.openParen, .caseWord, .whenWord, .name "LENGTH".toList, .openParen], ts,
    [.closeParen, .operator .atLeast, .number width, .thenWord, .name "SUBSTR".toList, .openParen],
    ts, [.comma, .number 1, .comma, .number width, .closeParen, .elseWord, .name "SUBSTR".toList,
      .openParen, .name "REPLACE".toList, .openParen, .name "HEX".toList, .openParen,
      .name "ZEROBLOB".toList, .openParen, .number width, .closeParen, .closeParen, .comma,
      .text ['0', '0'], .comma]].flatten

/-- The tokens of the cases behind the literal of the padding. -/
def casesTokensAfter (ts : List Token) (width : Nat) : List Token :=
  [[.closeParen, .comma, .number 1, .comma, .number width, .operator .minus, .name "LENGTH".toList,
    .openParen], ts, [.closeParen, .closeParen, .operator .join], ts,
    [.endWord, .closeParen]].flatten

section

variable {field : String} {ts : List Token}

theorem scans_callBeforePad (hfield : Scans field ts) (width : Nat) :
    ScansOpen (callBeforePad field width) ([.name "LPAD".toList, .openParen] ++ ts ++ [.comma] ++
      [.number width] ++ [.comma]) := by
  have hcall : ScansOpen "LPAD(" [.name "LPAD".toList, .openParen] := by decide +kernel
  have hcomma : ScansJoint ", " [.comma] := by decide +kernel
  exact hcall |>.fill hfield hcomma |>.fill (scans_repr width) hcomma

theorem scans_casesBeforePad (hfield : Scans field ts) (width : Nat) :
    ScansOpen (casesBeforePad field width) (casesTokensBefore ts width) := by
  have hcase : ScansOpen "(CASE WHEN LENGTH(" [.openParen, .caseWord, .whenWord,
      .name "LENGTH".toList, .openParen] := by decide +kernel
  have hatLeast : ScansJoint ") >= " [.closeParen, .operator .atLeast] := by decide +kernel
  have hthen : ScansJoint " THEN SUBSTR(" [.thenWord, .name "SUBSTR".toList, .openParen] := by
    decide +kernel
  have hfrom : ScansJoint ", 1, " [.comma, .number 1, .comma] := by decide +kernel
  have helse : ScansJoint (") ELSE SUBSTR(" ++ "REPLACE(HEX(ZEROBLOB(") [.closeParen, .elseWord,
      .name "SUBSTR".toList, .openParen, .name "REPLACE".toList, .openParen, .name "HEX".toList,
      .openParen, .name "ZEROBLOB".toList, .openParen] := by decide +kernel
  have hzeros : ScansJoint ")), '00', "
      [.closeParen, .closeParen, .comma, .text ['0', '0'], .comma] := by decide +kernel
  have hscans := hcase
    |>.fill hfield hatLeast
    |>.fill (scans_repr width) hthen
    |>.fill hfield hfrom
    |>.fill (scans_repr width) helse
    |>.fill (scans_repr width) hzeros
  unfold casesBeforePad
  simpa only [casesTokensBefore, List.flatten_cons, List.flatten_nil, List.append_nil,
    List.append_assoc, List.cons_append, List.nil_append, String.append_assoc] using hscans

theorem scans_casesAfterPad (hfield : Scans field ts) (width : Nat) :
    ScansJoint (casesAfterPad field width) (casesTokensAfter ts width) where
  toScansOpen := by
    have hfrom : ScansOpen (")" ++ ", 1, ") [.closeParen, .comma, .number 1, .comma] := by
      decide +kernel
    have hminus : ScansJoint " - LENGTH(" [.operator .minus, .name "LENGTH".toList, .openParen] := by
      decide +kernel
    have hjoin : ScansJoint ")) || " [.closeParen, .closeParen, .operator .join] := by decide +kernel
    have hend : ScansJoint " END)" [.endWord, .closeParen] := by decide +kernel
    have hscans := hfrom
      |>.fill (scans_repr width) hminus
      |>.fill hfield hjoin
      |>.fill hfield hend
    unfold casesAfterPad
    simpa only [casesTokensAfter, List.flatten_cons, List.flatten_nil, List.append_nil,
      List.append_assoc, List.cons_append, List.nil_append, String.append_assoc] using hscans
  begins := ⟨')', head?_casesAfterPad field width, by decide⟩

end

end Sql

open SqlBackend.Sql

/-- The padding has one place in the text for it, between a blank and a parenthesis. What stands before
it and behind it does not depend on the padding, and has tokens of its own if the field has. -/
theorem Engine.exists_place_of_pad (engine : Engine) (field : String) (width : Nat) :
    ∃ before after : String,
      (∀ pad, engine.lpad field width.repr pad = before ++ quoteLiteral pad ++ after) ∧
      before.toList.getLast? = some ' ' ∧ after.toList.head? = some ')' ∧
      ∀ ts, Scans field ts → ∃ front back, Scans before front ∧ Scans after back := by
  have hcall : ∃ before after : String,
      (∀ pad, lpadCall field width.repr pad = before ++ quoteLiteral pad ++ after) ∧
      before.toList.getLast? = some ' ' ∧ after.toList.head? = some ')' ∧
      ∀ ts, Scans field ts → ∃ front back, Scans before front ∧ Scans after back := by
    have hclose : Scans ")" [.closeParen] := by decide +kernel
    exact ⟨callBeforePad field width, ")", lpadCall_eq field width,
      getLast?_callBeforePad field width, rfl,
      fun _ hfield => ⟨_, _, (scans_callBeforePad hfield width).toScans, hclose⟩⟩
  cases engine with
  | mysql => exact hcall
  | oracle => exact hcall
  | sqlite =>
      exact ⟨casesBeforePad field width, casesAfterPad field width, lpadByCases_eq field width,
        getLast?_casesBeforePad field width, head?_casesAfterPad field width,
        fun _ hfield => ⟨_, _, (scans_casesBeforePad hfield width).toScans,
          (scans_casesAfterPad hfield width).toScans⟩⟩

/-- A text is read, up to what comes after, exactly from its literal with no quote behind it, so that no
two texts have the same literal. Where quotes are all that is special in a literal, a padding is read
back from the text for it, which is there unless the width has more than 4300 digits, and its literal
ends where it should. What stands before the literal and behind it does not depend on the padding, and
where both have tokens, as they do for a field with tokens of its own, the whole has these and between
them one for the padding. -/
theorem Sql.literals_are_self_delimiting :
    (∀ (s : String) (cs rest : List Char), readLiteral cs = some (s.toList, rest) ↔
      cs = (quoteLiteral s).toList ++ rest ∧ rest.head? ≠ some quoteMark) ∧
    Function.Injective quoteLiteral ∧
    ∀ engine : Engine, engine ≠ .mysql → ∀ (field : Value) (shown : String),
      field.shown? = some shown → ∀ width : Nat, ∃ before after : String,
      (∀ pad : String, pad ≠ "" →
        (engine.dialect.fragment "lpad" [field, .int width, .text pad] =
            if width < 10 ^ 4300 then .ok (.text (before ++ quoteLiteral pad ++ after))
            else .error (.numeralTooLong none)) ∧
          readLiteral (quoteLiteral pad ++ after).toList = some (pad.toList, after.toList)) ∧
      (∀ front back : List Token, tokens? before.toList = some front →
        tokens? after.toList = some back → ∀ pad : String, pad ≠ "" →
          tokens? (before ++ quoteLiteral pad ++ after).toList =
            some (front ++ .text pad.toList :: back)) ∧
      ∀ ts, Scans shown ts →
        ∃ front back, tokens? before.toList = some front ∧ tokens? after.toList = some back := by
  refine ⟨fun s cs rest => readLiteral_eq_some_iff, quoteLiteral_injective,
    fun engine _ field shown hshown width => ?_⟩
  obtain ⟨before, after, htext, hlast, hhead, htokens⟩ := engine.exists_place_of_pad shown width
  refine ⟨before, after, fun pad hpad => ⟨?_, ?_⟩, fun front back hfront hback pad _ => ?_,
    fun ts hfield => ?_⟩
  · rw [engine.fragment_lpad_of_shown? hshown width hpad, htext]
  · rw [String.toList_append]
    refine readLiteral_quoteLiteral pad ?_
    rw [hhead]
    decide
  · exact tokens?_around_quoteLiteral ⟨' ', hlast, by decide⟩ ⟨')', hhead, by decide⟩ hfront hback pad
  · obtain ⟨front, back, hbefore, hafter⟩ := htokens ts hfield
    exact ⟨front, back, hbefore.tokens, hafter.tokens⟩

/-- A padding that would end its literal, were its quotes not doubled. -/
def quoteEdgedPadding : String := "''' OR 1=1 --'"

theorem literal_of_quoteEdgedPadding_is_self_delimiting :
    Engine.sqlite ≠ .mysql ∧ quoteEdgedPadding ≠ "" ∧
      Scans "'it''s'" [.text "it's".toList] ∧
      ∃ (text : String) (front back : List Token),
        Engine.sqlite.dialect.fragment "lpad"
          [.text "'it''s'", .int 3, .text quoteEdgedPadding] = .ok (.text text) ∧
        tokens? text.toList = some (front ++ .text quoteEdgedPadding.toList :: back) := by
  have hengine : Engine.sqlite ≠ .mysql := by decide
  have hpad : quoteEdgedPadding ≠ "" := by decide
  have hfield : Scans "'it''s'" [.text "it's".toList] := by decide +kernel
  obtain ⟨-, -, hpadded⟩ := literals_are_self_delimiting
  obtain ⟨before, after, htext, hwhole, htokens⟩ :=
    hpadded .sqlite hengine (.text "'it''s'") "'it''s'" (Value.shown?_text _) 3
  obtain ⟨front, back, hfront, hback⟩ := htokens _ hfield
  have hwidth : 3 < 10 ^ 4300 := Numeric.lt_of_lt_billion (by decide)
  have hwritten := (htext _ hpad).1.trans (if_pos hwidth)
  exact ⟨hengine, hpad, hfield, _, front, back, hwritten, hwhole front back hfront hback _ hpad⟩

end SqlBackend
