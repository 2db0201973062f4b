import SqlBackend.Proofs.Sql.Literal
import SqlBackend.Proofs.Text.Ascii
import Mathlib.Tactic.SplitIfs

/-!
# Tokens of an expression

A text falls into tokens from the left, each as long as possible; white space and comments are none. A
literal or a comment that does not end leaves the text without tokens.
-/

namespace SqlBackend.Sql

open SqlBackend.Text

/-- An operator that stands between its operands. -/
inductive Operator where
  | atLeast
  | bitAnd
  | minus
  | join
  deriving DecidableEq, Repr

/-- What the text of an expression is made of. Names are also those that stand in quotes; `other` is
whatever the expressions of the fragments have no use for. -/
inductive Token where
  | name (cs : List Char)
  | number (n : Nat)
  | text (cs : List Char)
  | openParen
  | closeParen
  | comma
  | complement
  | operator (op : Operator)
  | caseWord
  | whenWord
  | thenWord
  | elseWord
  | endWord
  | other (cs : List Char)
  deriving DecidableEq, Repr

/-- White space. -/
def isSpace (c : Char) : Bool := c ∈ [' ', '\t', '\n', '\x0C', '\r']

/-- A character of a word: a letter or digit, one of the signs that names may have, or a character
beyond ASCII. -/
def isWordChar (c : Char) : Bool :=
  isAsciiLetter c || isAsciiDigit c || c ∈ ['_', '$', '.'] || 0x80 ≤ c.toNat

/-- The words with a meaning of their own, in small letters. -/
def keywords : List (List Char × Token) :=
  [("case".toList, .caseWord), ("when".toList, .whenWord), ("then".toList, .thenWord),
   ("else".toList, .elseWord), ("end".toList, .endWord)]

/-- The token of a word. One that begins like a number is a number only if all of it is digits. -/
def word (cs : List Char) : Token :=
  if cs.all isAsciiDigit then .number (ofAsciiDigits cs)
  else if cs.head?.any (fun c => isAsciiDigit c || c == '.') then .other cs
  else (keywords.lookup (cs.map asciiLower)).getD (.name cs)

/-- The signs that are tokens by themselves. -/
def signs : List (Char × Token) :=
  [('(', .openParen), (')', .closeParen), (',', .comma), ('~', .complement),
   ('&', .operator .bitAnd), ('-', .operator .minus)]

/-- The pairs of signs that are one token. -/
def pairedSigns : List ((Char × Char) × Token) :=
  [(('|', '|'), .operator .join), (('>', '='), .operator .atLeast)]

/-- The token of a sign that belongs to no pair. -/
def loneSign (c : Char) : Token := (signs.lookup c).getD (.other [c])

/-- What comes after the end of the line. -/
def afterLine : List Char → Option (List Char)
  | [] => none
  | c :: rest => if c = '\n' then some rest else afterLine rest

/-- What comes after the end of a comment. -/
def afterComment : List Char → Option (List Char)
  | [] => none
  | [_] => none
  | c :: d :: rest => if c = '*' ∧ d = '/' then some rest else afterComment (d :: rest)

/-- The token that begins with a sign, and what comes after. A comment is no token, and it has to
end. -/
def signed? (c : Char) : List Char → Option (List Token × List Char)
  | [] => some ([loneSign c], [])
  | d :: rest =>
    if c = '-' ∧ d = '-' then (afterLine rest).map ([], ·)
    else if c = '/' ∧ d = '*' then (afterComment rest).map ([], ·)
    else match pairedSigns.lookup (c, d) with
      | some token => some ([token], rest)
      | none => some ([loneSign c], d :: rest)

/-- A mark that a name may stand in. -/
def isNameMark (c : Char) : Bool := c ∈ ['"', '\x60']

/-- What stands first in a text, as at most one token, and what comes after. -/
def lexeme? : List Char → Option (List Token × List Char)
  | [] => none
  | c :: rest =>
    if isSpace c then some ([], rest)
    else if c = quoteMark then (readQuoted c rest).map (Prod.map ([.text ·]) id)
    else if isNameMark c then (readQuoted c rest).map (Prod.map ([.name ·]) id)
    else if isWordChar c then
      some ([word (c :: rest.takeWhile isWordChar)], rest.dropWhile isWordChar)
    else signed? c rest

section

variable {cs rest s : List Char} {c : Char} {ts : List Token}

theorem suffix_of_afterLine (h : afterLine cs = some rest) : rest <:+ cs := by
  induction cs with
  | nil => cases h
  | cons c cs ih =>
      rw [afterLine] at h
      split at h
      · cases h
        exact List.suffix_cons c rest
      · exact (ih h).trans (List.suffix_cons c cs)

theorem suffix_of_afterComment (h : afterComment cs = some rest) : rest <:+ cs := by
  fun_induction afterComment cs with
  | case1 => cases h
  | case2 => cases h
  | case3 c d tail =>
      cases h
      exact (List.suffix_cons d rest).trans (List.suffix_cons c _)
  | case4 c d tail _ ih => exact (ih h).trans (List.suffix_cons c _)

theorem suffix_of_signed? (h : signed? c cs = some (ts, rest)) : rest <:+ cs := by
  cases cs with
  | nil =>
      cases h
      exact List.suffix_rfl
  | cons d tail =>
      rw [signed?] at h
      split_ifs at h with hline hcomment
      · obtain ⟨later, hlater, hpair⟩ := Option.map_eq_some_iff.mp h
        cases hpair
        exact (suffix_of_afterLine hlater).trans (List.suffix_cons d tail)
      · obtain ⟨later, hlater, hpair⟩ := Option.map_eq_some_iff.mp h
        cases hpair
        exact (suffix_of_afterComment hlater).trans (List.suffix_cons d tail)
      · split at h
        · cases h
          exact List.suffix_cons d _
        · cases h
          exact List.suffix_rfl

theorem suffix_of_readQuoted {mark : Char} (h : readQuoted mark cs = some (s, rest)) :
    rest <:+ cs := by
  obtain ⟨body, rfl⟩ := eq_append_of_readQuoted h
  exact (List.suffix_cons mark rest).trans (List.suffix_append body _)

/-- What comes after a lexeme is shorter than what began with it. -/
theorem suffix_of_lexeme? (h : lexeme? (c :: cs) = some (ts, rest)) : rest <:+ cs := by
  have hquoted {mark : Char} {token : List Char → List Token}
      (hmap : (readQuoted mark cs).map (Prod.map token id) = some (ts, rest)) : rest <:+ cs := by
    obtain ⟨⟨s, later⟩, hread, hpair⟩ := Option.map_eq_some_iff.mp hmap
    cases hpair
    exact suffix_of_readQuoted hread
  rw [lexeme?] at h
  split_ifs at h with hspace hquote hname hword
  · cases h
    exact List.suffix_rfl
  · exact hquoted h
  · exact hquoted h
  · cases h
    exact List.dropWhile_suffix isWordChar
  · exact suffix_of_signed? h

theorem length_lt_of_lexeme? (h : lexeme? cs = some (ts, rest)) : rest.length < cs.length := by
  cases cs with
  | nil => cases h
  | cons c cs => exact Nat.lt_succ_of_le (suffix_of_lexeme? h).length_le

end

/-- The tokens of a text, if all of it is tokens. -/
def tokens? (cs : List Char) : Option (List Token) :=
  match _h : lexeme? cs with
  | none => if cs.isEmpty then some [] else none
  | some (ts, rest) => (tokens? rest).map (ts ++ ·)
termination_by cs.length
decreasing_by exact length_lt_of_lexeme? _h

end SqlBackend.Sql
