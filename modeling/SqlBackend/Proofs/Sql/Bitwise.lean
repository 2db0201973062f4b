import SqlBackend.Proofs.Sql.Fragment
import SqlBackend.Proofs.Sql.Form
import SqlBackend.Proofs.Sql.BitTree
import Mathlib.Data.List.Forall2

/-!
# Nested bitwise fragments

The operands of a bitwise fragment are put into its text as they are. Oracle's texts are calls and groups,
so a nested operation is an operand of the outer one and has its value. The texts of MySQL and SQLite have
nothing around them: an inner text falls apart into its own operands, and a complement before it reaches
the first of them only. So the texts of these two mean the chain of a tree.
-/

namespace SqlBackend

open SqlBackend.Sql

namespace Sql

/-- A row in which each column has a number. -/
def Row.ofColumns (ρ : List Char → Nat) : Row where
  given
    | [.name cs] => some (.integer (ρ cs))
    | _ => none

namespace BitLeaf

theorem scans (l : BitLeaf) : Scans l.text [l.token] := by
  cases l with
  | column c => exact c.scans
  | number n => exact scans_repr n

theorem hasTerm (l : BitLeaf) (ρ : List Char → Nat) :
    (Row.ofColumns ρ).HasTerm [l.token] (some (.integer (l.value ρ))) := by
  cases l with
  | column c => exact Row.hasTerm_name c.name
  | number n => exact Row.hasTerm_number n

end BitLeaf

/-- What is left of a number without the bits that it shares with another. -/
theorem land_add_ldiff (x y : Nat) : (x &&& y) + Nat.ldiff x y = x := by
  induction x using Nat.binaryRec generalizing y with
  | zero => rw [Nat.zero_and, Nat.zero_add, Nat.ldiff, Nat.bitwise_zero_left]; rfl
  | bit a m ih =>
      cases y using Nat.bitCasesOn with
      | bit b n =>
          have hrest := ih n
          rw [Nat.land_bit, Nat.ldiff_bit, Nat.bit_val, Nat.bit_val, Nat.bit_val]
          cases a <;> cases b <;> simp <;> omega

namespace BitTree

/-- What a dialect spells for a tree, with the texts of the operands as they come. -/
def spelled (d : Dialect) : BitTree → Except Fault Value
  | leaf l => .ok (.text l.text)
  | both a b => do d.fragment "bit_and" [← a.spelled d, ← b.spelled d]
  | without a b => do d.fragment "bit_and_not" [← a.spelled d, ← b.spelled d]

/-- The text of a tree for an engine. -/
def textFor (engine : Engine) : BitTree → String
  | leaf l => l.text
  | both a b => engine.bitAnd (a.textFor engine) (b.textFor engine)
  | without a b => engine.bitAndNot (a.textFor engine) (b.textFor engine)

theorem spelled_dialect (engine : Engine) (tree : BitTree) :
    tree.spelled engine.dialect = .ok (.text (tree.textFor engine)) := by
  induction tree with
  | leaf l => rfl
  | both a b iha ihb =>
      rw [spelled, iha, ihb]
      exact engine.fragment_bitAnd _ _
  | without a b iha ihb =>
      rw [spelled, iha, ihb]
      exact engine.fragment_bitAndNot _ _

variable {ρ : List Char → Nat}

/-! ### Oracle -/

def oracleTokens : BitTree → List Token
  | leaf l => [l.token]
  | both a b => callTokens "BITAND" [a.oracleTokens, b.oracleTokens]
  | without a b =>
    .openParen :: (a.oracleTokens ++ .operator .minus ::
      callTokens "BITAND" [a.oracleTokens, b.oracleTokens]) ++ [.closeParen]

theorem scans_oracle (tree : BitTree) : Scans (tree.textFor .oracle) tree.oracleTokens := by
  have hcomma : ScansJoint ", " [.comma] := by decide +kernel
  induction tree with
  | leaf l => exact l.scans
  | both a b iha ihb =>
      have hcall : ScansOpen "BITAND(" [.name "BITAND".toList, .openParen] := by decide +kernel
      have hend : ScansJoint ")" [.closeParen] := by decide +kernel
      have hscans : ScansOpen ((both a b).textFor .oracle) _ := hcall
        |>.fill iha hcomma
        |>.fill ihb hend
      simpa [oracleTokens, callTokens] using hscans.toScans
  | without a b iha ihb =>
      have hopen : ScansOpen "(" [.openParen] := by decide +kernel
      have hcall : ScansJoint " - BITAND(" [.operator .minus, .name "BITAND".toList, .openParen] := by
        decide +kernel
      have hend : ScansJoint "))" [.closeParen, .closeParen] := by decide +kernel
      have hscans : ScansOpen ((without a b).textFor .oracle) _ := hopen
        |>.fill iha hcall
        |>.fill iha hcomma
        |>.fill ihb hend
      simpa [oracleTokens, callTokens] using hscans.toScans

theorem hasTerm_oracle (tree : BitTree) :
    (Row.ofColumns ρ).HasTerm tree.oracleTokens (some (.integer (tree.value ρ))) := by
  have hcall {a b : BitTree}
      (ha : (Row.ofColumns ρ).HasTerm a.oracleTokens (some (.integer (a.value ρ))))
      (hb : (Row.ofColumns ρ).HasTerm b.oracleTokens (some (.integer (b.value ρ)))) :
      (Row.ofColumns ρ).HasTerm (callTokens "BITAND" [a.oracleTokens, b.oracleTokens])
        (some (.integer (a.value ρ &&& b.value ρ : Nat))) :=
    Row.hasTerm_call_of_result? .bitand [.integer (a.value ρ), .integer (b.value ρ)] rfl
      (.cons ha.hasValue (.cons hb.hasValue .nil)) nofun rfl
  induction tree with
  | leaf l => exact l.hasTerm ρ
  | both a b iha ihb => exact hcall iha ihb
  | without a b iha ihb =>
      have hdifference : (a.value ρ : Int) - (a.value ρ &&& b.value ρ : Nat) =
          (Nat.ldiff (a.value ρ) (b.value ρ) : Nat) := by
        have hsum := land_add_ldiff (a.value ρ) (b.value ρ)
        omega
      have hgroup := (iha.apply .minus (hcall iha ihb)).group
      rw [Option.bind_some, Option.bind_some, Operator.result?, hdifference, Option.some_or] at hgroup
      exact hgroup

/-! ### MySQL and SQLite -/

def factorTokens (factor : Bool × BitLeaf) : List Token :=
  if factor.1 then [.complement, factor.2.token] else [factor.2.token]

def chainTokens (tree : BitTree) : List Token :=
  tree.first.token :: tree.rest.flatMap fun factor => .operator .bitAnd :: factorTokens factor

theorem chainTokens_eq_intercalate (tree : BitTree) :
    tree.chainTokens =
      [.operator .bitAnd].intercalate ([tree.first.token] :: tree.rest.map factorTokens) := by
  have hgeneral (ts : List Token) (tss : List (List Token)) :
      [Token.operator .bitAnd].intercalate (ts :: tss) =
        ts ++ tss.flatMap (.operator .bitAnd :: ·) := by
    induction tss generalizing ts with
    | nil => simp
    | cons us tss ih => simp [List.intercalate_cons_cons, ih]
  rw [hgeneral, List.flatMap_map]
  rfl

theorem scans_chain {engine : Engine} (hengine : engine ≠ .oracle) (tree : BitTree) :
    Scans (tree.textFor engine) tree.chainTokens := by
  induction tree with
  | leaf l => exact l.scans
  | both a b iha ihb =>
      have hand : ScansJoint " & " [.operator .bitAnd] := by decide +kernel
      have htext : (both a b).textFor engine = a.textFor engine ++ " & " ++ b.textFor engine := by
        cases engine <;> first | rfl | exact absurd rfl hengine
      rw [htext]
      simpa [chainTokens, first, rest, factorTokens] using (iha.joint hand).append ihb
  | without a b iha ihb =>
      have handNot : ScansJoint " & ~" [.operator .bitAnd, .complement] := by decide +kernel
      have htext : (without a b).textFor engine = a.textFor engine ++ " & ~" ++ b.textFor engine := by
        cases engine <;> first | rfl | exact absurd rfl hengine
      rw [htext]
      simpa [chainTokens, first, rest, factorTokens] using (iha.joint handNot).append ihb

theorem hasTerm_factor (factor : Bool × BitLeaf) :
    (Row.ofColumns ρ).HasTerm (factorTokens factor)
      (some (.integer (if factor.1 then (Int.not (factor.2.value ρ)) else factor.2.value ρ))) := by
  obtain ⟨flag, l⟩ := factor
  cases flag with
  | false => exact l.hasTerm ρ
  | true => exact (l.hasTerm ρ).complemented

theorem fold?_bitAnd (rest : List (Bool × BitLeaf)) (n : Nat) :
    Operator.fold? .bitAnd (some (.integer n) :: rest.map fun factor =>
        some (.integer (if factor.1 then (Int.not (factor.2.value ρ)) else factor.2.value ρ))) =
      some (.integer (rest.foldl (restrict ρ) n : Nat)) := by
  induction rest generalizing n with
  | nil => rfl
  | cons factor rest ih =>
      obtain ⟨flag, l⟩ := factor
      rw [List.foldl_cons, ← ih]
      cases flag <;> rfl

theorem hasValue_chain (tree : BitTree) :
    (Row.ofColumns ρ).HasValue tree.chainTokens (some (.integer (tree.chainValue ρ))) := by
  rw [chainTokens_eq_intercalate]
  have hrest : List.Forall₂ (Row.ofColumns ρ).HasTerm (tree.rest.map factorTokens)
      (tree.rest.map fun factor =>
        some (.integer (if factor.1 then (Int.not (factor.2.value ρ)) else factor.2.value ρ))) := by
    rw [List.forall₂_map_left_iff, List.forall₂_map_right_iff]
    exact List.forall₂_same.mpr fun factor _ => hasTerm_factor factor
  have hvalue := Row.hasValue_intercalate .bitAnd (.cons (tree.first.hasTerm ρ) hrest) nofun
  rwa [fold?_bitAnd] at hvalue

end BitTree

end Sql

/-- Oracle's text of a tree evaluates to its value. Those of MySQL and SQLite evaluate to the chain of its
leaves, in which a complement reaches the next leaf only. That is the value of the tree if each operand to
be complemented is a leaf, and over columns that stand once it is so for all assignments in no other
case. -/
theorem bit_fragments_evaluate (tree : BitTree) :
    (∃ text, tree.spelled .oracle = .ok (.text text) ∧
      ∀ ρ, (Row.ofColumns ρ).evaluate text = some (.integer (tree.value ρ))) ∧
    ∀ engine ∈ [Engine.mysql, .sqlite], ∃ text, tree.spelled engine.dialect = .ok (.text text) ∧
      (∀ ρ, (Row.ofColumns ρ).evaluate text = some (.integer (tree.chainValue ρ))) ∧
      (tree.IsFlat → ∀ ρ, (Row.ofColumns ρ).evaluate text = some (.integer (tree.value ρ))) ∧
      (tree.IsReadOnce →
        ((∀ ρ, (Row.ofColumns ρ).evaluate text = some (.integer (tree.value ρ))) ↔ tree.IsFlat)) := by
  constructor
  · refine ⟨_, tree.spelled_dialect .oracle, fun ρ => ?_⟩
    rw [Row.evaluate_of_hasValue tree.scans_oracle tree.hasTerm_oracle.hasValue, Option.some_or]
  · intro engine hengine
    have hother : engine ≠ .oracle := by
      rintro rfl
      simp at hengine
    have hchain (ρ : List Char → Nat) : (Row.ofColumns ρ).evaluate (tree.textFor engine) =
        some (.integer (tree.chainValue ρ)) := by
      rw [Row.evaluate_of_hasValue (tree.scans_chain hother) tree.hasValue_chain, Option.some_or]
    have hagree : (∀ ρ, (Row.ofColumns ρ).evaluate (tree.textFor engine) =
        some (.integer (tree.value ρ))) ↔ ∀ ρ, tree.chainValue ρ = tree.value ρ := by
      refine forall_congr' fun ρ => ?_
      rw [hchain, Option.some.injEq, Datum.integer.injEq, Int.natCast_inj]
    refine ⟨_, tree.spelled_dialect engine, hchain, fun hflat => ?_, fun honce => ?_⟩
    · exact hagree.mpr fun ρ => BitTree.chainValue_eq_value_of_isFlat hflat
    · rw [hagree, BitTree.chainValue_eq_value_iff_isFlat honce]

/-- A column of flags. -/
def flagsColumn : ColumnName where
  text := "flags"
  name := "flags".toList
  scans := by decide +kernel

/-- A column of flags to be looked at. -/
def maskColumn : ColumnName where
  text := "mask"
  name := "mask".toList
  scans := by decide +kernel

/-- The flags of the mask without the third one. -/
def maskedTree : BitTree :=
  .without (.both (.leaf (.column flagsColumn)) (.leaf (.column maskColumn))) (.leaf (.number 4))

theorem bit_fragments_evaluate_for_maskedTree :
    maskedTree.IsFlat ∧ ∀ engine ∈ [Engine.mysql, .sqlite], ∃ text,
      maskedTree.spelled engine.dialect = .ok (.text text) ∧
      ∀ ρ, (Row.ofColumns ρ).evaluate text = some (.integer (maskedTree.value ρ)) := by
  have hflat : maskedTree.IsFlat := ⟨⟨trivial, trivial⟩, .number 4, rfl⟩
  refine ⟨hflat, fun engine hengine => ?_⟩
  obtain ⟨text, htext, -, hvalue, -⟩ := (bit_fragments_evaluate maskedTree).2 engine hengine
  exact ⟨text, htext, hvalue hflat⟩

/-- The flags without the third one, if it is in the mask. -/
def nestedTree : BitTree :=
  .without (.leaf (.column flagsColumn)) (.both (.leaf (.column maskColumn)) (.leaf (.number 4)))

/-- One flag, and nothing in the mask. -/
def firstFlag (cs : List Char) : Nat := if cs = flagsColumn.name then 1 else 0

/-- The complement of a nested operation is a complement of its first operand. -/
theorem complement_reaches_first_operand :
    nestedTree.value firstFlag = 1 ∧
      (∃ text, nestedTree.spelled .oracle = .ok (.text text) ∧
        (Row.ofColumns firstFlag).evaluate text = some (.integer 1)) ∧
      ∀ engine ∈ [Engine.mysql, .sqlite],
        nestedTree.spelled engine.dialect = .ok (.text "flags & ~mask & 4") ∧
          (Row.ofColumns firstFlag).evaluate "flags & ~mask & 4" = some (.integer 0) := by
  refine ⟨by decide +kernel, ⟨"(flags - BITAND(flags, BITAND(mask, 4)))", rfl, by decide +kernel⟩, ?_⟩
  intro engine hengine
  refine ⟨?_, by decide +kernel⟩
  rw [List.mem_cons, List.mem_singleton] at hengine
  rcases hengine with rfl | rfl
  · rfl
  · rfl

end SqlBackend
