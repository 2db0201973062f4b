import SqlBackend.Text.Ranges

/-!
# Blank characters and trimming

Two sets are in use. `isWhiteSpace` is the Unicode property; `isBlank` adds the four information
separators U+001C to U+001F, which names and flags lose as well when they are trimmed, while a
numeral does not. Trimming removes the members of a class from both ends and never looks inside.
-/

namespace SqlBackend.Text

/-- The 25 characters of the Unicode property White_Space. -/
def whiteSpace : Ranges :=
  [(0x09, 0x0D), (0x20, 0x20), (0x85, 0x85), (0xA0, 0xA0), (0x1680, 0x1680), (0x2000, 0x200A),
   (0x2028, 0x2029), (0x202F, 0x202F), (0x205F, 0x205F), (0x3000, 0x3000)]

def isWhiteSpace (c : Char) : Bool := whiteSpace.has c

/-- White space or one of the information separators U+001C to U+001F. -/
def isBlank (c : Char) : Bool := Ranges.has ((0x1C, 0x1F) :: whiteSpace) c

theorem isBlank_of_isWhiteSpace {c : Char} (h : isWhiteSpace c = true) : isBlank c = true := by
  unfold isBlank
  rw [Ranges.has_cons]
  simp only [isWhiteSpace] at h
  simp [h]

/-- `cs` without the characters of the class at its end. -/
def dropTrailing (p : Char → Bool) (cs : List Char) : List Char :=
  (cs.reverse.dropWhile p).reverse

/-- `cs` without the characters of the class at either end. -/
def trim (p : Char → Bool) (cs : List Char) : List Char :=
  dropTrailing p (cs.dropWhile p)

theorem dropTrailing_append_of_all {p : Char → Bool} (cs : List Char) {ws : List Char}
    (h : ∀ c ∈ ws, p c = true) : dropTrailing p (cs ++ ws) = dropTrailing p cs := by
  unfold dropTrailing
  rw [List.reverse_append, List.dropWhile_append_of_pos (by simpa using h)]

theorem trim_append_of_all {p : Char → Bool} {ws : List Char} (cs : List Char)
    (h : ∀ c ∈ ws, p c = true) : trim p (ws ++ cs) = trim p cs := by
  unfold trim
  rw [List.dropWhile_append_of_pos h]

end SqlBackend.Text
