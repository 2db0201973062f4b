import SqlBackend.Proofs.Sql.Expression

/-!
# Reading the tokens of an expression

Tokens that can be read alone are read alike behind others (`Spells.behind`), unless a name stands right
before them, which would make a call of a group. So what a bracket is read as depends only on what stands
in it. No token is lost on the way (`Spells.flatMap_tokens`).
-/

namespace SqlBackend.Sql

/-- The token that ends a bracket. -/
def Token.closes : Token → Bool
  | .closeParen => true
  | .endWord => true
  | _ => false

/-- What follows the items, which are given with the latest first, is no argument list. -/
def CallsNothing (items : List Item) : Prop := ∀ f, items.head? ≠ some (.token (.name f))

section

variable {row : Row} {t opening : Token} {ts us : List Token} {item : Item}
  {items items' inner before base : List Item}

theorem callsNothing_token (h : ∀ f, t ≠ .name f) : CallsNothing (.token t :: items) := by
  intro f heq
  exact h f (Item.token.inj (Option.some.inj heq))

theorem sinceOpening?_append (h : sinceOpening? opening items = some (inner, before)) :
    sinceOpening? opening (items ++ base) = some (inner, before ++ base) := by
  induction items generalizing inner with
  | nil => cases h
  | cons item items ih =>
      rw [sinceOpening?] at h
      rw [List.cons_append, sinceOpening?]
      split at h
      · next hopens =>
          rw [if_pos hopens]
          split at h
          · next hitem =>
              cases h
              rw [if_pos hitem]
          · cases h
      · next hopens =>
          obtain ⟨⟨later, _⟩, hlater, hpair⟩ := Option.map_eq_some_iff.mp h
          cases hpair
          rw [if_neg hopens, ih hlater]
          rfl

theorem eq_append_of_sinceOpening? (h : sinceOpening? opening items = some (inner, before)) :
    items = inner.reverse ++ .token opening :: before := by
  induction items generalizing inner with
  | nil => cases h
  | cons item items ih =>
      rw [sinceOpening?] at h
      split at h
      · split at h
        · next hitem =>
            cases h
            rw [hitem]
            rfl
        · cases h
      · obtain ⟨⟨later, _⟩, hlater, hpair⟩ := Option.map_eq_some_iff.mp h
        cases hpair
        rw [ih hlater]
        simp

/-- Items in which no bracket begins are what stands since the opening. -/
theorem sinceOpening?_eq_some (hopening : (Item.token opening).opens = true)
    (hitems : ∀ item ∈ items, item.opens = false) :
    sinceOpening? opening (items ++ .token opening :: before) = some (items.reverse, before) := by
  induction items with
  | nil => rw [List.nil_append, sinceOpening?, if_pos hopening, if_pos rfl, List.reverse_nil]
  | cons item items ih =>
      obtain ⟨hitem, hrest⟩ := List.forall_mem_cons.mp hitems
      rw [List.cons_append, sinceOpening?, if_neg (by simp [hitem]), ih hrest, List.reverse_cons]
      rfl

namespace Row

theorem closeParen_append (hbase : CallsNothing base) :
    row.closeParen inner (before ++ base) = row.closeParen inner before ++ base := by
  cases before with
  | cons item before =>
      cases item with
      | token t => cases t <;> rfl
      | operand ts value => rfl
  | nil =>
      cases base with
      | nil => rfl
      | cons item base =>
          cases item with
          | operand ts value => rfl
          | token t =>
              cases t with
              | name f => exact absurd rfl (hbase f)
              | _ => rfl

theorem step_of_closes_eq_false (h : t.closes = false) : row.step items t = some (.token t :: items) := by
  cases t with
  | closeParen => cases h
  | endWord => cases h
  | _ => rfl

/-- What a token does: it is put behind the items, or it ends the latest bracket. -/
theorem step_cases (h : row.step items t = some items') :
    (t.closes = false ∧ items' = .token t :: items) ∨
    (t = .closeParen ∧ ∃ inner before, sinceOpening? .openParen items = some (inner, before) ∧
      items' = row.closeParen inner before) ∨
    (t = .endWord ∧ ∃ inner before, sinceOpening? .caseWord items = some (inner, before) ∧
      items' = row.closeCase inner before) := by
  cases hcloses : t.closes with
  | false =>
      rw [step_of_closes_eq_false hcloses] at h
      exact .inl ⟨rfl, (Option.some.inj h).symm⟩
  | true =>
      cases t with
      | closeParen =>
          obtain ⟨⟨inner, before⟩, hsince, rfl⟩ := Option.map_eq_some_iff.mp h
          exact .inr (.inl ⟨rfl, inner, before, hsince, rfl⟩)
      | endWord =>
          obtain ⟨⟨inner, before⟩, hsince, rfl⟩ := Option.map_eq_some_iff.mp h
          exact .inr (.inr ⟨rfl, inner, before, hsince, rfl⟩)
      | _ => cases hcloses

/-- One token does the same to the latest items whatever stands before them. -/
theorem step_append (hbase : CallsNothing base) (h : row.step items t = some items') :
    row.step (items ++ base) t = some (items' ++ base) := by
  rcases step_cases h with ⟨hcloses, rfl⟩ | ⟨rfl, inner, before, hsince, rfl⟩ |
    ⟨rfl, inner, before, hsince, rfl⟩
  · exact step_of_closes_eq_false hcloses
  · rw [step, sinceOpening?_append hsince]
    exact congrArg some (closeParen_append hbase)
  · rw [step, sinceOpening?_append hsince]
    rfl

/-- So do any number of tokens. -/
theorem foldlM_step_append (hbase : CallsNothing base) (h : ts.foldlM row.step items = some items') :
    ts.foldlM row.step (items ++ base) = some (items' ++ base) := by
  induction ts generalizing items with
  | nil =>
      cases h
      rfl
  | cons t ts ih =>
      rw [List.foldlM_cons] at h ⊢
      obtain ⟨next, hnext, hrest⟩ := Option.bind_eq_some_iff.mp h
      rw [step_append hbase hnext]
      exact ih hrest

theorem flatMap_tokens_closeParen :
    (row.closeParen inner before).reverse.flatMap Item.tokens =
      before.reverse.flatMap Item.tokens ++
        .openParen :: inner.flatMap Item.tokens ++ [.closeParen] := by
  have hother (rest : List Item) :
      (row.operand (.openParen :: inner.flatMap Item.tokens ++ [.closeParen])
        (row.expressionValue? inner) :: rest).reverse.flatMap Item.tokens =
      rest.reverse.flatMap Item.tokens ++
        .openParen :: inner.flatMap Item.tokens ++ [.closeParen] := by
    simp [operand, Item.tokens]
  cases before with
  | nil => exact hother []
  | cons item before =>
      cases item with
      | operand ts value => exact hother _
      | token t =>
          cases t with
          | name f => simp [closeParen, operand, Item.tokens]
          | _ => exact hother _

/-- Each token that is read is kept, in its place. -/
theorem flatMap_tokens_step (h : row.step items t = some items') :
    items'.reverse.flatMap Item.tokens = items.reverse.flatMap Item.tokens ++ [t] := by
  rcases step_cases h with ⟨-, rfl⟩ | ⟨rfl, inner, before, hsince, rfl⟩ |
    ⟨rfl, inner, before, hsince, rfl⟩
  · simp [Item.tokens]
  · rw [eq_append_of_sinceOpening? hsince]
    simp [flatMap_tokens_closeParen, Item.tokens]
  · rw [eq_append_of_sinceOpening? hsince]
    simp [closeCase, operand, Item.tokens]

theorem flatMap_tokens_foldlM (h : ts.foldlM row.step items = some items') :
    items'.reverse.flatMap Item.tokens = items.reverse.flatMap Item.tokens ++ ts := by
  induction ts generalizing items with
  | nil =>
      cases h
      simp
  | cons t ts ih =>
      rw [List.foldlM_cons] at h
      obtain ⟨next, hnext, hrest⟩ := Option.bind_eq_some_iff.mp h
      rw [ih hrest, flatMap_tokens_step hnext, List.append_assoc]
      rfl

/-- What can be read alone is read alike behind other items. -/
theorem Spells.behind (h : row.Spells ts items) (hbase : CallsNothing base) :
    ts.foldlM row.step base = some (items.reverse ++ base) :=
  foldlM_step_append hbase h

theorem Spells.flatMap_tokens (h : row.Spells ts items) : items.flatMap Item.tokens = ts := by
  have hkept := flatMap_tokens_foldlM h
  rwa [List.reverse_reverse, List.reverse_nil, List.flatMap_nil, List.nil_append] at hkept

theorem spells_token (h : t.closes = false) : row.Spells [t] [.token t] := by
  rw [Spells, List.foldlM_cons, step_of_closes_eq_false h]
  rfl

/-- Two expressions with a token between them, which is no name. -/
theorem Spells.joined {items' : List Item} (hts : row.Spells ts items) (hus : row.Spells us items')
    (ht : t.closes = false) (hname : ∀ f, t ≠ .name f) :
    row.Spells (ts ++ t :: us) (items ++ .token t :: items') := by
  rw [Spells, List.foldlM_append, hts, Option.bind_eq_bind, Option.bind_some, List.foldlM_cons,
    step_of_closes_eq_false ht, Option.bind_eq_bind, Option.bind_some,
    hus.behind (callsNothing_token hname)]
  simp

/-- An expression with a token before it, which is no name. -/
theorem Spells.headed (hts : row.Spells ts items) (ht : t.closes = false)
    (hname : ∀ f, t ≠ .name f) : row.Spells (t :: ts) (.token t :: items) :=
  @Spells.joined row t [] ts [] items rfl hts ht hname

/-- Expressions with a token between each two of them. -/
theorem spells_intercalate {tss : List (List Token)} {itemss : List (List Item)}
    (h : List.Forall₂ row.Spells tss itemss) (ht : t.closes = false) (hname : ∀ f, t ≠ .name f) :
    row.Spells ([t].intercalate tss) ([.token t].intercalate itemss) := by
  induction h with
  | nil => rfl
  | cons hfirst hothers ih =>
      cases hothers with
      | nil => simpa using hfirst
      | cons hsecond hrest =>
          rw [List.intercalate_cons_cons, List.intercalate_cons_cons, List.append_assoc,
            List.append_assoc]
          exact hfirst.joined ih ht hname

/-- In a bracket that is closed, what was read alone is what stands since its opening. -/
theorem Spells.closed (h : row.Spells ts items) (hitems : ∀ item ∈ items, item.opens = false)
    (hopening : (Item.token opening).opens = true) (t : Token) (before : List Item) :
    (ts ++ [t]).foldlM row.step (.token opening :: before) =
        row.step (items.reverse ++ .token opening :: before) t ∧
      sinceOpening? opening (items.reverse ++ .token opening :: before) = some (items, before) := by
  have hbase : CallsNothing (.token opening :: before) := by
    refine callsNothing_token ?_
    rintro f rfl
    cases hopening
  constructor
  · rw [List.foldlM_append, h.behind hbase, Option.bind_eq_bind, Option.bind_some, List.foldlM_cons]
    exact bind_pure _
  · rw [sinceOpening?_eq_some hopening (by simpa using hitems), List.reverse_reverse]

theorem Spells.group (h : row.Spells ts items) (hitems : ∀ item ∈ items, item.opens = false) :
    row.Spells (.openParen :: ts ++ [.closeParen])
      [row.operand (.openParen :: ts ++ [.closeParen]) (row.expressionValue? items)] := by
  obtain ⟨hread, hsince⟩ := @Spells.closed row .openParen ts items h hitems rfl .closeParen []
  refine hread.trans ?_
  rw [step, hsince]
  simp [closeParen, h.flatMap_tokens]

theorem Spells.call {f : List Char} (h : row.Spells ts items)
    (hitems : ∀ item ∈ items, item.opens = false) :
    row.Spells (.name f :: .openParen :: ts ++ [.closeParen])
      [row.operand (.name f :: .openParen :: ts ++ [.closeParen]) (row.callValue? f items)] := by
  obtain ⟨hread, hsince⟩ :=
    @Spells.closed row .openParen ts items h hitems rfl .closeParen [.token (.name f)]
  refine hread.trans ?_
  rw [step, hsince]
  simp [closeParen, h.flatMap_tokens]

theorem Spells.choice (h : row.Spells ts items) (hitems : ∀ item ∈ items, item.opens = false) :
    row.Spells (.caseWord :: ts ++ [.endWord])
      [row.operand (.caseWord :: ts ++ [.endWord]) (row.choiceValue? items)] := by
  obtain ⟨hread, hsince⟩ := @Spells.closed row .caseWord ts items h hitems rfl .endWord []
  refine hread.trans ?_
  rw [step, hsince]
  simp [closeCase, h.flatMap_tokens]

end Row

end

end SqlBackend.Sql
