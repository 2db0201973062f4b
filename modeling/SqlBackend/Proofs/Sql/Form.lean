import SqlBackend.Proofs.Sql.Reading
import SqlBackend.Proofs.Sql.Separator

/-!
# Expressions by their forms

An expression without separators outside its brackets has a value (`HasValue`), and so has an operand,
perhaps with complements before it (`HasTerm`). For each form of an expression there is one lemma that says
what its value is: a leaf, a complement, a group, a call, a choice, and terms with one operator between
them.
-/

namespace SqlBackend.Sql

section

variable {row : Row} {t : Token} {ts : List Token} {item : Item} {items items' : List Item}

/-- The tokens of a call. -/
def callTokens (name : String) (arguments : List (List Token)) : List Token :=
  .name name.toList :: .openParen :: [.comma].intercalate arguments ++ [.closeParen]

/-- The tokens of a choice. -/
def choiceTokens (condition yes no : List Token) : List Token :=
  .caseWord :: (.whenWord :: (condition ++ .thenWord :: (yes ++ .elseWord :: no))) ++ [.endWord]

theorem Item.isTermPart_of_isOperand (h : item.isOperand = true) : item.isTermPart = true := by
  cases item with
  | operand => rfl
  | token t => cases t <;> first | rfl | cases h

theorem Item.isPart_of_isTermPart (h : item.isTermPart = true) : item.isPart = true := by
  cases item with
  | operand => rfl
  | token t => cases t <;> first | rfl | cases h

theorem Item.opens_of_isPart (h : item.isPart = true) : item.opens = false := by
  cases item with
  | operand => rfl
  | token t => cases t <;> first | rfl | cases h

/-- An item for which a condition fails is none of those for which it holds. -/
theorem not_mem_of_forall {p : Item → Bool} (hitems : ∀ item ∈ items, p item = true)
    (h : p item = false) : item ∉ items := by
  intro hmem
  rw [hitems item hmem] at h
  cases h

theorem mem_intercalate {sep : Item} {parts : List (List Item)} (h : item ∈ [sep].intercalate parts) :
    item = sep ∨ ∃ part ∈ parts, item ∈ part := by
  induction parts with
  | nil => cases h
  | cons first others ih =>
      cases others with
      | nil =>
          rw [List.intercalate_singleton] at h
          exact .inr ⟨first, List.mem_cons_self, h⟩
      | cons second rest =>
          rw [List.intercalate_cons_cons, List.append_assoc, List.mem_append, List.singleton_append,
            List.mem_cons] at h
          rcases h with hfirst | hsep | hrest
          · exact .inr ⟨first, List.mem_cons_self, hfirst⟩
          · exact .inl hsep
          · refine (ih hrest).imp_right ?_
            rintro ⟨part, hpart, hitem⟩
            exact ⟨part, List.mem_cons_of_mem first hpart, hitem⟩

theorem splitOn_between {sep : Item} (hitems : sep ∉ items) (hitems' : sep ∉ items') :
    (items ++ sep :: items').splitOn sep = [items, items'] := by
  have hfree : ∀ part ∈ [items, items'], sep ∉ part :=
    List.forall_mem_cons.mpr ⟨hitems, List.forall_mem_singleton.mpr hitems'⟩
  have hsplit := List.splitOn_intercalate sep hfree (List.cons_ne_nil items [items'])
  rwa [List.intercalate_cons_cons, List.intercalate_singleton, List.append_assoc] at hsplit

namespace Operator

variable {op : Operator} {ops : List Operator} {part : List Item → Option Datum}

theorem chain?_of_not_mem (h : .token (.operator op) ∉ items) : op.chain? part items = part items := by
  rw [chain?, List.splitOn_eq_singleton h]
  rfl

theorem foldr_chain?_of_free (h : ∀ op ∈ ops, .token (.operator op) ∉ items) :
    ops.foldr chain? part items = part items := by
  induction ops with
  | nil => rfl
  | cons op ops ih =>
      obtain ⟨hop, hrest⟩ := List.forall_mem_cons.mp h
      rw [List.foldr_cons, chain?_of_not_mem hop, ih hrest]

/-- Each operator stands once in the list of all. -/
theorem exists_all_eq (op : Operator) :
    ∃ looser tighter, all = looser ++ op :: tighter ∧ op ∉ looser := by
  cases op with
  | atLeast => exact ⟨[], _, rfl, by decide⟩
  | bitAnd => exact ⟨[atLeast], _, rfl, by decide⟩
  | minus => exact ⟨[atLeast, bitAnd], _, rfl, by decide⟩
  | join => exact ⟨[atLeast, bitAnd, minus], _, rfl, by decide⟩

end Operator

namespace Row

/-- Terms with one operator between them are combined by it from the left. -/
theorem expressionValue?_intercalate (op : Operator) {parts : List (List Item)} (hparts : parts ≠ [])
    (hfree : ∀ part ∈ parts, ∀ other, .token (.operator other) ∉ part) :
    row.expressionValue? ([.token (.operator op)].intercalate parts) =
      op.fold? (parts.map row.operandValue?) := by
  -- The looser operators stand nowhere, and the tighter ones not within the parts.
  obtain ⟨looser, tighter, hall, hlooser⟩ := op.exists_all_eq
  have hloose : ∀ other ∈ looser,
      .token (.operator other) ∉ [Item.token (.operator op)].intercalate parts := by
    intro other hother hmem
    rcases mem_intercalate hmem with heq | ⟨part, hpart, hitem⟩
    · cases heq
      exact hlooser hother
    · exact hfree part hpart other hitem
  have htight : parts.map (tighter.foldr Operator.chain? row.operandValue?) =
      parts.map row.operandValue? :=
    List.map_congr_left fun part hpart =>
      Operator.foldr_chain?_of_free fun other _ => hfree part hpart other
  rw [expressionValue?, hall, List.foldr_append, Operator.foldr_chain?_of_free hloose,
    List.foldr_cons, Operator.chain?,
    List.splitOn_intercalate _ (fun part hpart => hfree part hpart op) hparts, htight]

/-- The tokens are read as items that all fulfil a condition, and a function of these has this value. -/
def HasReading (row : Row) (p : Item → Bool) (f : List Item → Option Datum) (ts : List Token)
    (value : Option Datum) : Prop :=
  ∃ items, row.Spells ts items ∧ (∀ item ∈ items, p item = true) ∧ f items = value

/-- The tokens are an expression of this value, without separators outside its brackets. -/
def HasValue (row : Row) : List Token → Option Datum → Prop :=
  row.HasReading Item.isPart row.expressionValue?

/-- The tokens are an operand, perhaps with complements before it, of this value. -/
def HasTerm (row : Row) : List Token → Option Datum → Prop :=
  row.HasReading Item.isTermPart row.operandValue?

variable {a b : List Token} {u v : Option Datum} {tss : List (List Token)}
  {vs : List (Option Datum)}

theorem exists_readings {p : Item → Bool} {f : List Item → Option Datum}
    (h : List.Forall₂ (row.HasReading p f) tss vs) (htss : tss ≠ []) :
    ∃ itemss, itemss ≠ [] ∧ List.Forall₂ row.Spells tss itemss ∧
      (∀ items ∈ itemss, ∀ item ∈ items, p item = true) ∧ itemss.map f = vs := by
  induction h with
  | nil => exact absurd rfl htss
  | @cons ts _ tss _ hfirst hothers ih =>
      obtain ⟨items, hspells, hparts, rfl⟩ := hfirst
      cases hothers with
      | nil =>
          exact ⟨[items], List.cons_ne_nil items [], .cons hspells .nil,
            List.forall_mem_singleton.mpr hparts, rfl⟩
      | cons hsecond hrest =>
          obtain ⟨itemss, -, hspellss, hpartss, hvalues⟩ := ih (List.cons_ne_nil _ _)
          exact ⟨items :: itemss, List.cons_ne_nil items itemss, .cons hspells hspellss,
            List.forall_mem_cons.mpr ⟨hparts, hpartss⟩, congrArg (f items :: ·) hvalues⟩

theorem Spells.hasTerm (h : row.Spells ts [item]) (hitem : item.isOperand = true) :
    row.HasTerm ts (row.value? item) :=
  ⟨[item], h, List.forall_mem_singleton.mpr (Item.isTermPart_of_isOperand hitem), rfl⟩

theorem hasTerm_number (n : Nat) : row.HasTerm [.number n] (some (.integer n)) :=
  (spells_token rfl).hasTerm rfl

theorem hasTerm_text (cs : List Char) : row.HasTerm [.text cs] (some (.text cs)) :=
  (spells_token rfl).hasTerm rfl

theorem hasTerm_name (cs : List Char) : row.HasTerm [.name cs] (row.given [.name cs]) :=
  (spells_token rfl).hasTerm rfl

theorem hasTerm_operand (h : row.Spells ts [row.operand ts v]) :
    row.HasTerm ts (v.or (row.given ts)) :=
  h.hasTerm rfl

theorem operandValue?_complement (items : List Item) :
    row.operandValue? (.token .complement :: items) = (row.operandValue? items).bind complement? := by
  cases items <;> rfl

theorem HasTerm.complemented (h : row.HasTerm ts v) :
    row.HasTerm (.complement :: ts) (v.bind complement?) := by
  obtain ⟨items, hspells, hparts, rfl⟩ := h
  exact ⟨.token .complement :: items, hspells.headed rfl nofun, List.forall_mem_cons.mpr ⟨rfl, hparts⟩,
    operandValue?_complement items⟩

/-- Terms with one operator between them. -/
theorem hasValue_intercalate (op : Operator) (h : List.Forall₂ row.HasTerm tss vs) (htss : tss ≠ []) :
    row.HasValue ([.operator op].intercalate tss) (op.fold? vs) := by
  obtain ⟨itemss, hitemss, hspells, hparts, rfl⟩ := exists_readings h htss
  refine ⟨_, spells_intercalate hspells rfl nofun, fun item hmem => ?_,
    expressionValue?_intercalate op hitemss fun items hitems _ =>
      not_mem_of_forall (hparts items hitems) rfl⟩
  rcases mem_intercalate hmem with rfl | ⟨items, hitems, hitem⟩
  · rfl
  · exact Item.isPart_of_isTermPart (hparts items hitems item hitem)

theorem HasTerm.hasValue (h : row.HasTerm ts v) : row.HasValue ts v := by
  have hvalue := hasValue_intercalate .join (.cons h .nil) (List.cons_ne_nil ts [])
  rwa [List.intercalate_singleton] at hvalue

theorem HasTerm.apply (op : Operator) (ha : row.HasTerm a u) (hb : row.HasTerm b v) :
    row.HasValue (a ++ .operator op :: b) (u.bind fun u => v.bind (op.result? u)) := by
  have hvalue := hasValue_intercalate op (.cons ha (.cons hb .nil)) (List.cons_ne_nil a [b])
  rwa [List.intercalate_cons_cons, List.intercalate_singleton, List.append_assoc] at hvalue

theorem HasValue.group (h : row.HasValue ts v) :
    row.HasTerm (.openParen :: ts ++ [.closeParen])
      (v.or (row.given (.openParen :: ts ++ [.closeParen]))) := by
  obtain ⟨items, hspells, hparts, rfl⟩ := h
  exact hasTerm_operand (hspells.group fun item hitem => Item.opens_of_isPart (hparts item hitem))

/-- A call of a function that is known. -/
theorem hasTerm_call {name : String} {f : KnownFunction}
    (hf : KnownFunction.ofName? name.toList = some f) (h : List.Forall₂ row.HasValue tss vs)
    (htss : tss ≠ []) :
    row.HasTerm (callTokens name tss)
      (((vs.mapM id).bind f.result?).or (row.given (callTokens name tss))) := by
  obtain ⟨itemss, hitemss, hspells, hparts, rfl⟩ := exists_readings h htss
  have hopens : ∀ item ∈ [Item.token .comma].intercalate itemss, item.opens = false := by
    intro item hmem
    rcases mem_intercalate hmem with rfl | ⟨items, hitems, hitem⟩
    · rfl
    · exact Item.opens_of_isPart (hparts items hitems item hitem)
  have hcall : row.callValue? name.toList ([.token .comma].intercalate itemss) =
      ((itemss.map row.expressionValue?).mapM id).bind f.result? := by
    rw [callValue?, hf, Option.bind_some, List.mapM_map,
      List.splitOn_intercalate _ (fun items hitems => not_mem_of_forall (hparts items hitems) rfl)
        hitemss]
    rfl
  rw [← hcall]
  exact hasTerm_operand ((spells_intercalate (t := .comma) hspells rfl nofun).call hopens)

/-- A call of a known function for arguments that it has a value for. -/
theorem hasTerm_call_of_result? {name : String} (f : KnownFunction) (data : List Datum)
    {value : Datum} (hf : KnownFunction.ofName? name.toList = some f)
    (h : List.Forall₂ row.HasValue tss (data.map some)) (htss : tss ≠ [])
    (hvalue : f.result? data = some value) :
    row.HasTerm (callTokens name tss) (some value) := by
  have hdata : (data.map some).mapM id = some data := by
    rw [List.mapM_map]
    exact (List.mapM_pure (m := Option) (f := id)).trans (congrArg some data.map_id)
  have hcall := hasTerm_call hf h htss
  rwa [hdata, Option.bind_some, hvalue, Option.some_or] at hcall

theorem choiceValue?_eq {condition yes no : List Item}
    (hcondition : ∀ item ∈ condition, item.isPart = true) (hyes : ∀ item ∈ yes, item.isPart = true)
    (hno : ∀ item ∈ no, item.isPart = true) {n : Int}
    (hvalue : row.expressionValue? condition = some (.integer n)) :
    row.choiceValue? (.token .whenWord ::
        (condition ++ .token .thenWord :: (yes ++ .token .elseWord :: no))) =
      if n = 0 then row.expressionValue? no else row.expressionValue? yes := by
  have hthen : Item.token .thenWord ∉ yes ++ .token .elseWord :: no := by
    intro hmem
    rcases List.mem_append.mp hmem with hitem | hitem
    · exact not_mem_of_forall hyes rfl hitem
    · exact not_mem_of_forall hno rfl ((List.mem_cons.mp hitem).resolve_left nofun)
  have hsplit : (yes ++ .token .elseWord :: no).splitOn (.token .elseWord) = [yes, no] :=
    splitOn_between (not_mem_of_forall hyes rfl) (not_mem_of_forall hno rfl)
  rw [choiceValue?, splitOn_between (not_mem_of_forall hcondition rfl) hthen]
  simp only [hsplit, hvalue, Option.bind_some]

/-- A choice between two expressions by a condition that has a number. -/
theorem hasTerm_choice {n : Int} (hts : row.HasValue ts (some (.integer n))) (ha : row.HasValue a u)
    (hb : row.HasValue b v) :
    row.HasTerm (choiceTokens ts a b)
      ((if n = 0 then v else u).or (row.given (choiceTokens ts a b))) := by
  obtain ⟨condition, hspells, hparts, hcondition⟩ := hts
  obtain ⟨yes, hyes, hyesParts, rfl⟩ := ha
  obtain ⟨no, hno, hnoParts, rfl⟩ := hb
  have hbranches : row.Spells (a ++ .elseWord :: b) (yes ++ .token .elseWord :: no) :=
    hyes.joined hno rfl nofun
  have hinner : row.Spells (.whenWord :: (ts ++ .thenWord :: (a ++ .elseWord :: b)))
      (.token .whenWord :: (condition ++ .token .thenWord :: (yes ++ .token .elseWord :: no))) :=
    (hspells.joined (t := .thenWord) hbranches rfl nofun).headed rfl nofun
  have hopens : ∀ item ∈ Item.token .whenWord ::
      (condition ++ .token .thenWord :: (yes ++ .token .elseWord :: no)), item.opens = false := by
    intro item hmem
    simp only [List.mem_cons, List.mem_append] at hmem
    rcases hmem with rfl | hitem | rfl | hitem | rfl | hitem
    · rfl
    · exact Item.opens_of_isPart (hparts item hitem)
    · rfl
    · exact Item.opens_of_isPart (hyesParts item hitem)
    · rfl
    · exact Item.opens_of_isPart (hnoParts item hitem)
  rw [← choiceValue?_eq hparts hyesParts hnoParts hcondition]
  exact hasTerm_operand (hinner.choice hopens)

theorem evaluate_of_hasValue {s : String} (hs : Scans s ts) (h : row.HasValue ts v) :
    row.evaluate s = v.or (row.given ts) := by
  obtain ⟨items, hspells, hparts, rfl⟩ := h
  have hclosed : items.reverse.any Item.opens = false := by
    rw [List.any_reverse, List.any_eq_false]
    intro item hitem
    simp [Item.opens_of_isPart (hparts item hitem)]
  rw [evaluate, if_neg hs.noNull, hs.tokens]
  show (ts.foldlM row.step []).bind _ = _
  rw [hspells, Option.bind_some, if_neg (by simp [hclosed]), List.reverse_reverse]

end Row

end

end SqlBackend.Sql
