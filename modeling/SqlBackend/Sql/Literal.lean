/-!
# Text literals

A text stands in a statement between single quotes, and a quote inside it is written twice. The text
is otherwise unchanged; no other character is special in standard SQL.
-/

namespace SqlBackend.Sql

/-- The character that opens and closes a literal. -/
def quoteMark : Char := '\x27'

/-- The characters with every quote written twice. -/
def doubleQuotes : List Char → List Char
  | [] => []
  | c :: rest => if c = quoteMark then c :: c :: doubleQuotes rest else c :: doubleQuotes rest

@[simp] theorem doubleQuotes_nil : doubleQuotes [] = [] := rfl

@[simp] theorem doubleQuotes_cons_quoteMark (rest : List Char) :
    doubleQuotes (quoteMark :: rest) = quoteMark :: quoteMark :: doubleQuotes rest := by
  simp [doubleQuotes]

theorem doubleQuotes_cons_of_ne {c : Char} (h : c ≠ quoteMark) (rest : List Char) :
    doubleQuotes (c :: rest) = c :: doubleQuotes rest := by
  simp [doubleQuotes, h]

/-- The literal of a text. -/
def quoteLiteral (s : String) : String :=
  String.ofList (quoteMark :: doubleQuotes s.toList ++ [quoteMark])

@[simp] theorem toList_quoteLiteral (s : String) :
    (quoteLiteral s).toList = quoteMark :: doubleQuotes s.toList ++ [quoteMark] := by
  simp [quoteLiteral]

end SqlBackend.Sql
