import SqlBackend.Proofs.Sql.Delimited
import SqlBackend.Proofs.Sql.Form
import Mathlib.Data.Stream.Init

/-!
# Padding without a function for it

SQLite has no function that pads a text on the left. The expression that stands for one compares lengths
and either cuts the field or puts in front of it the start of as many copies of the padding as the text
is to have characters. This is the padding of a text, for any width and any padding, where the field is a
column or an expression in parentheses (`lpad_evaluates_to_leftPadded`).
-/

namespace SqlBackend

open SqlBackend.Sql

namespace Sql

/-- The text cut to `width` characters, or filled up on the left to so many with the padding, repeated
without end. -/
def leftPadded (cs pad : List Char) (hpad : pad ≠ []) (width : Nat) : List Char :=
  if width ≤ cs.length then cs.take width
  else (Stream'.cycle pad hpad).take (width - cs.length) ++ cs

section

variable {pad cs : List Char} {width : Nat}

theorem length_leftPadded (hpad : pad ≠ []) : (leftPadded cs pad hpad width).length = width := by
  rw [leftPadded]
  split
  · next h => rw [List.length_take, Nat.min_eq_left h]
  · next h => rw [List.length_append, Stream'.length_take, Nat.sub_add_cancel (Nat.le_of_not_le h)]

/-- The copies of a text, each replaced by another one. -/
theorem replaceAll_flatten_replicate {pattern : List Char} (hpattern : pattern ≠ []) (new : List Char)
    (n : Nat) :
    replaceAll pattern new (List.replicate n pattern).flatten = (List.replicate n new).flatten := by
  induction n with
  | zero => rw [List.replicate_zero, List.flatten_nil, replaceAll, List.replicate_zero, List.flatten_nil]
  | succ n ih =>
      obtain ⟨c, rest, rfl⟩ := List.exists_cons_of_ne_nil hpattern
      have hprefix : (c :: rest).isPrefixOf
          (c :: (rest ++ (List.replicate n (c :: rest)).flatten)) = true :=
        List.isPrefixOf_iff_prefix.mpr (List.prefix_append (c :: rest) _)
      rw [List.replicate_succ, List.flatten_cons, List.cons_append, replaceAll,
        if_pos ⟨hpattern, hprefix⟩, ← List.cons_append, List.drop_left, ih, List.replicate_succ,
        List.flatten_cons]

/-- Copies of a padding begin as the padding does that is repeated without end. -/
theorem flatten_replicate_append_cycle (hpad : pad ≠ []) (n : Nat) :
    (List.replicate n pad).flatten ++ₛ Stream'.cycle pad hpad = Stream'.cycle pad hpad := by
  induction n with
  | zero => rfl
  | succ n ih =>
      rw [List.replicate_succ, List.flatten_cons, Stream'.append_append_stream, ih, ← Stream'.cycle_eq]

theorem take_flatten_replicate (hpad : pad ≠ []) {k n : Nat} (h : k ≤ n) :
    (List.replicate n pad).flatten.take k = (Stream'.cycle pad hpad).take k := by
  have hlength : k ≤ (List.replicate n pad).flatten.length := by
    rw [List.length_flatten, List.map_replicate, List.sum_replicate_nat]
    exact h.trans (Nat.le_mul_of_pos_right n (List.length_pos_iff.mpr hpad))
  rw [← flatten_replicate_append_cycle hpad n, Stream'.take_append_of_le_length _ _ _ hlength]

/-- The zero bytes in hexadecimal. -/
theorem flatMap_hexDigits_replicate (n : Nat) :
    (List.replicate n 0).flatMap hexDigits = (List.replicate n ['0', '0']).flatten :=
  List.flatMap_replicate

end

def lengthTokens (ts : List Token) : List Token := callTokens "LENGTH" [ts]

/-- The first characters of a text, as many as the count has it. -/
def startTokens (ts count : List Token) : List Token := callTokens "SUBSTR" [ts, [.number 1], count]

def paddingTokens (width : Nat) (pad : List Char) : List Token :=
  callTokens "REPLACE"
    [callTokens "HEX" [callTokens "ZEROBLOB" [[.number width]]], [.text ['0', '0']], [.text pad]]

def conditionTokens (ts : List Token) (width : Nat) : List Token :=
  lengthTokens ts ++ .operator .atLeast :: [.number width]

def filledTokens (ts : List Token) (width : Nat) (pad : List Char) : List Token :=
  startTokens (paddingTokens width pad)
    ([.number width] ++ .operator .minus :: lengthTokens ts) ++ .operator .join :: ts

def lpadTokens (ts : List Token) (width : Nat) (pad : List Char) : List Token :=
  .openParen :: choiceTokens (conditionTokens ts width) (startTokens ts [.number width])
    (filledTokens ts width pad) ++ [.closeParen]

section

variable {pad : String} {ts : List Token}

theorem scans_lpadByCases {field : String} (hfield : Scans field ts) (hnull : '\x00' ∉ pad.toList)
    (width : Nat) :
    Scans (lpadByCases field width.repr pad) (lpadTokens ts width pad.toList) := by
  have hscans := (scans_casesBeforePad hfield width).fill (scans_quoteLiteral hnull)
    (scans_casesAfterPad hfield width)
  rw [lpadByCases_eq]
  simpa only [casesTokensBefore, casesTokensAfter, lpadTokens, choiceTokens, conditionTokens,
    filledTokens, startTokens, paddingTokens, lengthTokens, callTokens,
    List.intercalate_cons_cons, List.intercalate_singleton, List.flatten_cons, List.flatten_nil,
    List.append_nil, List.append_assoc, List.cons_append, List.nil_append] using hscans.toScans

end

section

variable {row : Row} {ts count : List Token} {cs pad : List Char} {width k : Nat}

theorem hasTerm_length (hts : row.HasValue ts (some (.text cs))) (hcs : '\x00' ∉ cs) :
    row.HasTerm (lengthTokens ts) (some (.integer cs.length)) := by
  have hall : cs.takeWhile (· ≠ '\x00') = cs := by
    rw [List.takeWhile_eq_self_iff]
    intro c hc
    rw [decide_eq_true_eq]
    rintro rfl
    exact hcs hc
  refine Row.hasTerm_call_of_result? .length [.text cs] rfl (.cons hts .nil) nofun ?_
  rw [KnownFunction.result?, hall]

theorem hasTerm_start (hts : row.HasValue ts (some (.text cs)))
    (hcount : row.HasValue count (some (.integer k))) :
    row.HasTerm (startTokens ts count) (some (.text (cs.take k))) := by
  refine Row.hasTerm_call_of_result? .substr [.text cs, .integer 1, .integer k] rfl
    (.cons hts (.cons (Row.hasTerm_number 1).hasValue (.cons hcount .nil))) nofun ?_
  rw [KnownFunction.result?, if_pos ⟨Int.le_refl 1, Int.natCast_nonneg k⟩]
  rfl

theorem hasTerm_padding (pad : List Char) (width : Nat) :
    row.HasTerm (paddingTokens width pad) (some (.text (List.replicate width pad).flatten)) := by
  have hzeros : row.HasTerm (callTokens "ZEROBLOB" [[.number width]])
      (some (.blob (List.replicate width 0))) :=
    Row.hasTerm_call_of_result? .zeroblob [.integer width] rfl
      (.cons (Row.hasTerm_number width).hasValue .nil) nofun rfl
  have hhex : row.HasTerm (callTokens "HEX" [callTokens "ZEROBLOB" [[.number width]]])
      (some (.text (List.replicate width ['0', '0']).flatten)) := by
    refine Row.hasTerm_call_of_result? .hex [.blob (List.replicate width 0)] rfl
      (.cons hzeros.hasValue .nil) nofun ?_
    rw [KnownFunction.result?, flatMap_hexDigits_replicate]
  refine Row.hasTerm_call_of_result? .replace
    [.text (List.replicate width ['0', '0']).flatten, .text ['0', '0'], .text pad] rfl
    (.cons hhex.hasValue
      (.cons (Row.hasTerm_text _).hasValue (.cons (Row.hasTerm_text pad).hasValue .nil)))
    nofun ?_
  rw [KnownFunction.result?, replaceAll_flatten_replicate (List.cons_ne_nil '0' ['0'])]

/-- The field after as much padding as it needs. Where it needs none, the value is not asked for. -/
theorem exists_hasValue_filled (hts : row.HasTerm ts (some (.text cs))) (hcs : '\x00' ∉ cs)
    (pad : List Char) (width : Nat) :
    ∃ value, row.HasValue (filledTokens ts width pad) value ∧
      (cs.length ≤ width →
        value = some (.text ((List.replicate width pad).flatten.take (width - cs.length) ++ cs))) := by
  have hmissing : row.HasValue ([.number width] ++ .operator .minus :: lengthTokens ts)
      (some (.integer (width - cs.length))) :=
    (Row.hasTerm_number width).apply .minus (hasTerm_length hts.hasValue hcs)
  have hpadding : row.HasValue (paddingTokens width pad) _ := (hasTerm_padding pad width).hasValue
  by_cases h : cs.length ≤ width
  · rw [← Int.ofNat_sub h] at hmissing
    exact ⟨_, (hasTerm_start hpadding hmissing).apply .join hts, fun _ => rfl⟩
  · -- The count is negative, so all that matters is that the call can be read.
    have hstart : row.HasTerm (callTokens "SUBSTR" _) _ := Row.hasTerm_call (f := .substr) rfl
      (.cons hpadding (.cons (Row.hasTerm_number 1).hasValue (.cons hmissing .nil))) nofun
    exact ⟨_, hstart.apply .join hts, fun hle => absurd hle h⟩

theorem hasTerm_lpad (hts : row.HasTerm ts (some (.text cs))) (hcs : '\x00' ∉ cs) (hpad : pad ≠ [])
    (width : Nat) :
    row.HasTerm (lpadTokens ts width pad) (some (.text (leftPadded cs pad hpad width))) := by
  have hcondition : row.HasValue (conditionTokens ts width)
      (some (.integer (if (width : Int) ≤ cs.length then 1 else 0))) :=
    (hasTerm_length hts.hasValue hcs).apply .atLeast (Row.hasTerm_number width)
  have hcut : row.HasTerm (startTokens ts [.number width]) (some (.text (cs.take width))) :=
    hasTerm_start hts.hasValue (Row.hasTerm_number width).hasValue
  obtain ⟨filled, hfilled, hfilledValue⟩ := exists_hasValue_filled hts hcs pad width
  have hchoice := Row.hasTerm_choice hcondition hcut.hasValue hfilled
  have hgroup := hchoice.hasValue.group
  by_cases h : width ≤ cs.length
  · rw [if_pos (Int.ofNat_le.mpr h), if_neg (by decide), Option.some_or, Option.some_or] at hgroup
    rwa [leftPadded, if_pos h]
  · have hlt : cs.length ≤ width := Nat.le_of_not_le h
    rw [if_neg (mt Int.ofNat_le.mp h), if_pos rfl, hfilledValue hlt, Option.some_or, Option.some_or,
      take_flatten_replicate hpad (Nat.sub_le width cs.length)] at hgroup
    rwa [leftPadded, if_neg h]

end

/-- A field that is an operand wherever it is put: the name of a column, or an expression in
parentheses that can be read by itself. -/
inductive Row.IsAtomic (row : Row) : String → Prop where
  | column {field : String} {name : List Char} (h : Scans field [.name name]) : row.IsAtomic field
  | parenthesised {inner : String} {ts : List Token} {items : List Item} (hscans : Scans inner ts)
      (hspells : row.Spells ts items) (hitems : ∀ item ∈ items, item.opens = false) :
      row.IsAtomic ("(" ++ inner ++ ")")

/-- An atomic field is a term with the value that it has by itself. -/
theorem Row.IsAtomic.exists_hasTerm {row : Row} {field : String} {value : Datum}
    (h : row.IsAtomic field) (hvalue : row.evaluate field = some value) :
    ∃ ts, Scans field ts ∧ row.HasTerm ts (some value) := by
  cases h with
  | @column _ name hscans =>
      have hterm : row.HasTerm [.name name] _ := hasTerm_name name
      rw [evaluate_of_hasValue hscans hterm.hasValue, Option.or_self] at hvalue
      rw [hvalue] at hterm
      exact ⟨_, hscans, hterm⟩
  | @parenthesised inner ts items hinner hspells hitems =>
      have hopen : ScansOpen "(" [.openParen] := by decide +kernel
      have hclose : ScansJoint ")" [.closeParen] := by decide +kernel
      have hscans : Scans ("(" ++ inner ++ ")") (.openParen :: ts ++ [.closeParen]) :=
        (hopen.fill hinner hclose).toScans
      have hterm := hasTerm_operand (hspells.group hitems)
      rw [evaluate_of_hasValue hscans hterm.hasValue, Option.or_assoc, Option.or_self] at hvalue
      rw [hvalue] at hterm
      exact ⟨_, hscans, hterm⟩

end Sql

/-- On SQLite, the expression for the padding of an atomic field whose value is a text evaluates to that
text, cut to the width or filled up on the left with the padding repeated without end. It has exactly as
many characters as the width says. There is such an expression unless the width has more than 4300
digits. -/
theorem lpad_evaluates_to_leftPadded (row : Row) {field : String} (hfield : row.IsAtomic field)
    {cs : List Char} (hvalue : row.evaluate field = some (.text cs)) (hcs : '\x00' ∉ cs) (width : Nat)
    {pad : String} (hpad : pad.toList ≠ []) (hnull : '\x00' ∉ pad.toList) :
    ∃ text, (Dialect.sqlite.fragment "lpad" [.text field, .int width, .text pad] =
        if width < 10 ^ 4300 then .ok (.text text) else .error (.numeralTooLong none)) ∧
      row.evaluate text = some (.text (leftPadded cs pad.toList hpad width)) ∧
      (leftPadded cs pad.toList hpad width).length = width := by
  have hnonempty : pad ≠ "" := by
    rintro rfl
    exact hpad rfl
  obtain ⟨ts, hscans, hts⟩ := hfield.exists_hasTerm hvalue
  have hlpad := hasTerm_lpad hts hcs hpad width
  refine ⟨lpadByCases field width.repr pad, Engine.fragment_lpad .sqlite field width hnonempty, ?_,
    length_leftPadded hpad⟩
  rw [Row.evaluate_of_hasValue (scans_lpadByCases hscans hnull width) hlpad.hasValue, Option.some_or]

/-- A row with one column, whose value is a text. -/
def codeRow : Row where
  given ts := if ts = [.name "code".toList] then some (.text "7".toList) else none

theorem isAtomic_code : codeRow.IsAtomic "(code)" := by
  have hscans : Scans "code" [.name "code".toList] := by decide +kernel
  have hspells : codeRow.Spells [.name "code".toList] [.token (.name "code".toList)] := rfl
  exact .parenthesised hscans hspells (by decide)

theorem lpad_evaluates_for_code :
    codeRow.evaluate "(code)" = some (.text "7".toList) ∧
      ∃ text, Dialect.sqlite.fragment "lpad" [.text "(code)", .int 6, .text "0'"] = .ok (.text text) ∧
        codeRow.evaluate text = some (.text "0'0'07".toList) := by
  have hvalue : codeRow.evaluate "(code)" = some (.text "7".toList) := by decide +kernel
  obtain ⟨text, hfragment, htext, -⟩ := lpad_evaluates_to_leftPadded codeRow isAtomic_code hvalue
    (by decide) 6 (show "0'".toList ≠ [] by decide) (by decide)
  have hwidth : 6 < 10 ^ 4300 := Numeric.lt_of_lt_billion (by decide)
  exact ⟨hvalue, text, hfragment.trans (if_pos hwidth), htext⟩

end SqlBackend
