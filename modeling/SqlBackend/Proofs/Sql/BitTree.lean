import SqlBackend.Proofs.Sql.Separator
import Mathlib.Data.List.Basic
import Mathlib.Data.Nat.Bitwise

/-!
# Trees of bitwise operations

A tree has a value for each assignment of numbers to the columns that it stands over. Its chain is what
is left of it when only the order of its leaves counts: a complement reaches the next leaf and no more.
The chain has the value of the tree if every operand to be complemented is a leaf. Where each leaf is a
column of its own, it has that value for all assignments in no other case
(`chainValue_eq_value_iff_isFlat`).
-/

namespace SqlBackend.Sql

/-- The name of a column, as it is written and as it is read. -/
structure ColumnName where
  text : String
  name : List Char
  scans : Scans text [.name name]

/-- An operand that is no operation itself. -/
inductive BitLeaf where
  | column (c : ColumnName)
  | number (n : Nat)

namespace BitLeaf

def text : BitLeaf → String
  | column c => c.text
  | number n => n.repr

def token : BitLeaf → Token
  | column c => .name c.name
  | number n => .number n

def value (ρ : List Char → Nat) : BitLeaf → Nat
  | column c => ρ c.name
  | number n => n

/-- The name of a column. -/
def name? : BitLeaf → Option (List Char)
  | column c => some c.name
  | number _ => none

theorem value_congr {ρ σ : List Char → Nat} {l : BitLeaf} (h : ∀ cs, l.name? = some cs → ρ cs = σ cs) :
    l.value ρ = l.value σ := by
  cases l with
  | column c => exact h c.name rfl
  | number n => rfl

end BitLeaf

/-- A tree of bitwise operations: the bits of both operands, or those of the first without those of the
second. -/
inductive BitTree where
  | leaf (l : BitLeaf)
  | both (a b : BitTree)
  | without (a b : BitTree)

namespace BitTree

/-- The value of a tree. -/
def value (ρ : List Char → Nat) : BitTree → Nat
  | leaf l => l.value ρ
  | both a b => a.value ρ &&& b.value ρ
  | without a b => Nat.ldiff (a.value ρ) (b.value ρ)

/-- The leaf that stands first in a tree. -/
def first : BitTree → BitLeaf
  | leaf l => l
  | both a _ => a.first
  | without a _ => a.first

/-- The leaves after the first, each with whether an operand to be complemented begins with it. -/
def rest : BitTree → List (Bool × BitLeaf)
  | leaf _ => []
  | both a b => a.rest ++ (false, b.first) :: b.rest
  | without a b => a.rest ++ (true, b.first) :: b.rest

/-- The bits of a number that are in a leaf, or not in it where it is complemented. -/
def restrict (ρ : List Char → Nat) (n : Nat) (factor : Bool × BitLeaf) : Nat :=
  if factor.1 then Nat.ldiff n (factor.2.value ρ) else n &&& factor.2.value ρ

/-- The value of the leaves one after the other. -/
def chainValue (ρ : List Char → Nat) (tree : BitTree) : Nat :=
  tree.rest.foldl (restrict ρ) (tree.first.value ρ)

variable {ρ σ : List Char → Nat} {a b tree : BitTree}

/-- Each operand that is to be complemented is a leaf. -/
def IsFlat : BitTree → Prop
  | leaf _ => True
  | both a b => a.IsFlat ∧ b.IsFlat
  | without a b => a.IsFlat ∧ ∃ l, b = leaf l

theorem testBit_foldl_restrict (rest : List (Bool × BitLeaf)) (n k : Nat) :
    (rest.foldl (restrict ρ) n).testBit k =
      (n.testBit k && rest.all fun factor => (factor.2.value ρ).testBit k != factor.1) := by
  induction rest generalizing n with
  | nil => simp
  | cons factor rest ih =>
      obtain ⟨flag, l⟩ := factor
      rw [List.foldl_cons, ih, List.all_cons, ← Bool.and_assoc]
      cases flag <;> simp [restrict, Nat.testBit_ldiff]

/-- A bit of a chain is set if it is set in the first leaf and every other one leaves it. -/
theorem testBit_chainValue (tree : BitTree) (k : Nat) :
    (tree.chainValue ρ).testBit k =
      ((tree.first.value ρ).testBit k &&
        tree.rest.all fun factor => (factor.2.value ρ).testBit k != factor.1) :=
  testBit_foldl_restrict tree.rest _ k

theorem testBit_chainValue_both (a b : BitTree) (k : Nat) :
    ((both a b).chainValue ρ).testBit k = ((a.chainValue ρ).testBit k && (b.chainValue ρ).testBit k) := by
  simp [testBit_chainValue, first, rest, Bool.and_assoc]

theorem testBit_chainValue_without (a b : BitTree) (k : Nat) :
    ((without a b).chainValue ρ).testBit k =
      ((a.chainValue ρ).testBit k && (!(b.first.value ρ).testBit k &&
        b.rest.all fun factor => (factor.2.value ρ).testBit k != factor.1)) := by
  simp [testBit_chainValue, first, rest, Bool.and_assoc]

theorem chainValue_eq_value_of_isFlat (h : tree.IsFlat) :
    tree.chainValue ρ = tree.value ρ := by
  induction tree with
  | leaf l => rfl
  | both a b iha ihb =>
      refine Nat.eq_of_testBit_eq fun k => ?_
      rw [testBit_chainValue_both, iha h.1, ihb h.2, value, Nat.testBit_and]
  | without a b iha _ =>
      obtain ⟨hflat, l, rfl⟩ := h
      refine Nat.eq_of_testBit_eq fun k => ?_
      rw [testBit_chainValue_without, iha hflat, value, Nat.testBit_ldiff, rest, List.all_nil,
        Bool.and_true]
      rfl

/-- The names of the columns of a tree, from the left, with nothing for a number. -/
def names : BitTree → List (Option (List Char))
  | leaf l => [l.name?]
  | both a b => a.names ++ b.names
  | without a b => a.names ++ b.names

/-- The leaves of a tree are columns, each of them once. -/
structure IsReadOnce (tree : BitTree) : Prop where
  noNumber : none ∉ tree.names
  nodup : tree.names.Nodup

theorem names_eq (tree : BitTree) :
    tree.names = tree.first.name? :: tree.rest.map fun factor => factor.2.name? := by
  induction tree with
  | leaf l => rfl
  | both a b iha ihb => simp [names, first, rest, iha, ihb]
  | without a b iha ihb => simp [names, first, rest, iha, ihb]

/-- The assignment that agrees with one on the columns of a tree and with another elsewhere. -/
def splice (tree : BitTree) (ρ σ : List Char → Nat) (cs : List Char) : Nat :=
  if some cs ∈ tree.names then ρ cs else σ cs

theorem value_congr (h : ∀ cs, some cs ∈ tree.names → ρ cs = σ cs) : tree.value ρ = tree.value σ := by
  induction tree with
  | leaf l => exact BitLeaf.value_congr fun cs hcs => h cs (List.mem_singleton.mpr hcs.symm)
  | both a b iha ihb =>
      rw [value, value, iha fun cs hcs => h cs (List.mem_append_left _ hcs),
        ihb fun cs hcs => h cs (List.mem_append_right _ hcs)]
  | without a b iha ihb =>
      rw [value, value, iha fun cs hcs => h cs (List.mem_append_left _ hcs),
        ihb fun cs hcs => h cs (List.mem_append_right _ hcs)]

theorem value_rest_congr (h : ∀ cs, some cs ∈ tree.names → ρ cs = σ cs) {factor : Bool × BitLeaf}
    (hmem : factor ∈ tree.rest) : factor.2.value ρ = factor.2.value σ := by
  rw [names_eq] at h
  exact BitLeaf.value_congr fun cs hcs => h cs
    (List.mem_cons_of_mem _ (List.mem_map.mpr ⟨factor, hmem, hcs⟩))

theorem chainValue_congr (h : ∀ cs, some cs ∈ tree.names → ρ cs = σ cs) :
    tree.chainValue ρ = tree.chainValue σ := by
  have hfirst : tree.first.value ρ = tree.first.value σ :=
    BitLeaf.value_congr fun cs hcs => h cs (by rw [names_eq, ← hcs]; exact List.mem_cons_self)
  rw [chainValue, chainValue, hfirst]
  refine List.foldl_ext _ _ _ fun n factor hmem => ?_
  rw [restrict, restrict, value_rest_congr h hmem]

theorem value_splice_left : a.value (a.splice ρ σ) = a.value ρ :=
  value_congr fun _ hcs => if_pos hcs

theorem value_splice_right (h : ∀ m ∈ a.names, ∀ n ∈ b.names, m ≠ n) :
    b.value (a.splice ρ σ) = b.value σ :=
  value_congr fun _ hcs => if_neg fun hmem => h _ hmem _ hcs rfl

theorem chainValue_splice_left : a.chainValue (a.splice ρ σ) = a.chainValue ρ :=
  chainValue_congr fun _ hcs => if_pos hcs

theorem chainValue_splice_right (h : ∀ m ∈ a.names, ∀ n ∈ b.names, m ≠ n) :
    b.chainValue (a.splice ρ σ) = b.chainValue σ :=
  chainValue_congr fun _ hcs => if_neg fun hmem => h _ hmem _ hcs rfl

/-- Two trees whose leaves are the leaves of one that reads each column once. -/
theorem IsReadOnce.of_names_eq_append (h : tree.IsReadOnce) (hnames : tree.names = a.names ++ b.names) :
    a.IsReadOnce ∧ b.IsReadOnce ∧ ∀ m ∈ a.names, ∀ n ∈ b.names, m ≠ n := by
  obtain ⟨hnumber, hnodup⟩ := h
  rw [hnames, List.mem_append, not_or] at hnumber
  rw [hnames, List.nodup_append] at hnodup
  exact ⟨⟨hnumber.1, hnodup.1⟩, ⟨hnumber.2, hnodup.2.1⟩, hnodup.2.2⟩

/-- No bit is set that is not set in the first leaf. -/
theorem testBit_first_of_value {k : Nat} (h : (tree.value ρ).testBit k = true) :
    (tree.first.value ρ).testBit k = true := by
  induction tree with
  | leaf l => exact h
  | both a b iha _ =>
      rw [value, Nat.testBit_and, Bool.and_eq_true] at h
      exact iha h.1
  | without a b iha _ =>
      rw [value, Nat.testBit_ldiff, Bool.and_eq_true] at h
      exact iha h.1

/-- Where every column is zero, no bit is set. -/
theorem testBit_value_zero (h : tree.IsReadOnce) (k : Nat) :
    (tree.value fun _ => 0).testBit k = false := by
  rw [Bool.eq_false_iff]
  intro hset
  have hfirst := testBit_first_of_value hset
  cases hleaf : tree.first with
  | column c => simp [hleaf, BitLeaf.value] at hfirst
  | number n =>
      refine h.noNumber ?_
      rw [names_eq, hleaf]
      exact List.mem_cons_self

/-- Some assignment sets the lowest bit. -/
theorem exists_testBit_value (h : tree.IsReadOnce) : ∃ ρ, (tree.value ρ).testBit 0 = true := by
  induction tree with
  | leaf l =>
      cases l with
      | column c => exact ⟨fun _ => 1, Nat.testBit_one_zero⟩
      | number n => exact absurd List.mem_cons_self h.noNumber
  | both a b iha ihb =>
      obtain ⟨ha, hb, hapart⟩ := h.of_names_eq_append rfl
      obtain ⟨ρ, hρ⟩ := iha ha
      obtain ⟨σ, hσ⟩ := ihb hb
      refine ⟨a.splice ρ σ, ?_⟩
      rw [value, Nat.testBit_and, value_splice_left, value_splice_right hapart, hρ, hσ]
      rfl
  | without a b iha _ =>
      obtain ⟨ha, hb, hapart⟩ := h.of_names_eq_append rfl
      obtain ⟨ρ, hρ⟩ := iha ha
      refine ⟨a.splice ρ fun _ => 0, ?_⟩
      rw [value, Nat.testBit_ldiff, value_splice_left, value_splice_right hapart, hρ,
        testBit_value_zero hb]
      rfl

/-- A tree that is no leaf is zero for some assignment for which a leaf after the first would clear the
lowest bit of a chain. -/
theorem exists_clearing (h : tree.IsReadOnce) (hleaf : ∀ l, tree ≠ leaf l) :
    ∃ ρ, (tree.value ρ).testBit 0 = false ∧
      ∃ factor ∈ tree.rest, (factor.2.value ρ).testBit 0 = factor.1 := by
  obtain ⟨hnumber, hnodup⟩ := h
  rw [names_eq] at hnumber hnodup
  cases hrest : tree.rest with
  | nil =>
      cases tree with
      | leaf l => exact absurd rfl (hleaf l)
      | both a b => simp [rest] at hrest
      | without a b => simp [rest] at hrest
  | cons factor others =>
      obtain ⟨flag, l⟩ := factor
      rw [hrest] at hnumber hnodup
      cases l with
      | number n => simp [BitLeaf.name?] at hnumber
      | column c =>
          -- The first leaf is another column, so it stays zero whatever this one is.
          let ρ : List Char → Nat := fun cs => if cs = c.name then flag.toNat else 0
          have hfirst : tree.first.value ρ = 0 := by
            cases hl : tree.first with
            | number n => simp [hl, BitLeaf.name?] at hnumber
            | column d =>
                rw [hl] at hnodup
                have hother : d.name ≠ c.name := by
                  rintro heq
                  simp [BitLeaf.name?, heq] at hnodup
                exact if_neg hother
          refine ⟨ρ, ?_, (flag, .column c), List.mem_cons_self, ?_⟩
          · rw [Bool.eq_false_iff]
            intro hset
            have hbit := testBit_first_of_value hset
            rw [hfirst, Nat.zero_testBit] at hbit
            cases hbit
          · have hvalue : (BitLeaf.column c).value ρ = flag.toNat := if_pos rfl
            rw [hvalue]
            cases flag <;> simp

/-- A tree that complements more than leaves sets a bit, for some assignment, that its chain does not. -/
theorem exists_parting (h : tree.IsReadOnce) (hflat : ¬ tree.IsFlat) :
    ∃ ρ, (tree.value ρ).testBit 0 = true ∧ (tree.chainValue ρ).testBit 0 = false := by
  -- The operands have no columns in common, so an assignment for each is one for both.
  induction tree with
  | leaf l => exact absurd trivial hflat
  | both a b iha ihb =>
      obtain ⟨ha, hb, hapart⟩ := h.of_names_eq_append rfl
      by_cases haflat : a.IsFlat
      · obtain ⟨ρ, hρ⟩ := exists_testBit_value ha
        obtain ⟨σ, hσ, hchain⟩ := ihb hb fun hbflat => hflat ⟨haflat, hbflat⟩
        refine ⟨a.splice ρ σ, ?_, ?_⟩
        · rw [value, Nat.testBit_and, value_splice_left, value_splice_right hapart, hρ, hσ]
          rfl
        · rw [testBit_chainValue_both, chainValue_splice_right hapart, hchain, Bool.and_false]
      · obtain ⟨ρ, hρ, hchain⟩ := iha ha haflat
        obtain ⟨σ, hσ⟩ := exists_testBit_value hb
        refine ⟨a.splice ρ σ, ?_, ?_⟩
        · rw [value, Nat.testBit_and, value_splice_left, value_splice_right hapart, hρ, hσ]
          rfl
        · rw [testBit_chainValue_both, chainValue_splice_left, hchain, Bool.false_and]
  | without a b iha _ =>
      obtain ⟨ha, hb, hapart⟩ := h.of_names_eq_append rfl
      by_cases haflat : a.IsFlat
      · obtain ⟨ρ, hρ⟩ := exists_testBit_value ha
        obtain ⟨σ, hσ, factor, hmem, hcleared⟩ := exists_clearing hb fun l hl => hflat ⟨haflat, l, hl⟩
        refine ⟨a.splice ρ σ, ?_, ?_⟩
        · rw [value, Nat.testBit_ldiff, value_splice_left, value_splice_right hapart, hρ, hσ]
          rfl
        · have hbit : factor.2.value (a.splice ρ σ) = factor.2.value σ :=
            value_rest_congr (fun _ hcs => if_neg fun hleft => hapart _ hleft _ hcs rfl) hmem
          have hall : (b.rest.all fun factor =>
              (factor.2.value (a.splice ρ σ)).testBit 0 != factor.1) = false :=
            List.all_eq_false.mpr ⟨factor, hmem, by simp [hbit, hcleared]⟩
          rw [testBit_chainValue_without, hall, Bool.and_false, Bool.and_false]
      · obtain ⟨ρ, hρ, hchain⟩ := iha ha haflat
        refine ⟨a.splice ρ fun _ => 0, ?_, ?_⟩
        · rw [value, Nat.testBit_ldiff, value_splice_left, value_splice_right hapart, hρ,
            testBit_value_zero hb]
          rfl
        · rw [testBit_chainValue_without, chainValue_splice_left, hchain, Bool.false_and]

/-- Over columns that stand once, a chain has the value of its tree for every assignment only if each
operand to be complemented is a leaf. -/
theorem chainValue_eq_value_iff_isFlat (h : tree.IsReadOnce) :
    (∀ ρ, tree.chainValue ρ = tree.value ρ) ↔ tree.IsFlat := by
  constructor
  · intro hagree
    by_contra hflat
    obtain ⟨ρ, hvalue, hchain⟩ := exists_parting h hflat
    rw [hagree ρ, hvalue] at hchain
    cases hchain
  · exact fun hflat ρ => chainValue_eq_value_of_isFlat hflat

end BitTree

end SqlBackend.Sql
