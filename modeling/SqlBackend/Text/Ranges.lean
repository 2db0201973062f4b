/-!
# Tables of code points

A character class is a list of inclusive ranges of code points. The tables of this folder are named
for the property they hold; membership is the only thing asked of them.
-/

namespace SqlBackend.Text

/-- Inclusive ranges of code points. -/
abbrev Ranges := List (Nat × Nat)

def Ranges.has (ranges : Ranges) (c : Char) : Bool :=
  ranges.any fun range => range.1 ≤ c.toNat && c.toNat ≤ range.2

theorem Ranges.has_cons (lo hi : Nat) (rest : Ranges) (c : Char) :
    Ranges.has ((lo, hi) :: rest) c = ((lo ≤ c.toNat && c.toNat ≤ hi) || Ranges.has rest c) :=
  rfl

end SqlBackend.Text
