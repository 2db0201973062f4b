import SqlBackend.Proofs.Sql.Fragment

/-!
# Concatenation of fields

Fields that are missing are left out of a concatenation, wherever they stand. Oracle and SQLite spell
what is left in the same way, as a row of operands in parentheses, and an empty text when nothing is
left. They part where one field is left: Oracle hands it on as it is, SQLite puts it in parentheses.
-/

namespace SqlBackend

open SqlBackend.Sql

namespace Sql

/-- A field of a concatenation as it is passed; it may be missing. -/
def fieldValue : Option String → Value
  | none => .null
  | some field => .text field

theorem presentValues_map_fieldValue (fields : List (Option String)) :
    presentValues (fields.map fieldValue) = (present fields).map Value.text := by
  induction fields with
  | nil => rfl
  | cons field fields ih =>
      cases field with
      | none => exact ih
      | some field => exact congrArg (Value.text field :: ·) ih

theorem texts?_map_text (texts : List String) : texts? (texts.map Value.text) = some texts := by
  induction texts with
  | nil => rfl
  | cons text texts ih =>
      rw [texts?] at ih ⊢
      rw [List.map_cons, List.mapM_cons, ih]
      rfl

theorem present_insert_none (before after : List (Option String)) :
    present (before ++ none :: after) = present (before ++ after) := by
  simp [present]

/-- A field in parentheses is not the field itself. -/
theorem ne_joinedByBars_singleton (field : String) : field ≠ joinedByBars [field] := by
  intro h
  have hlength := congrArg String.length h
  rw [joinedByBars, String.length_append, String.length_append,
    show " || ".intercalate [field] = field from rfl] at hlength
  have hparenthesis : "(".length = 1 := rfl
  omega

end Sql

namespace Engine

variable {engine : Engine} {values : List Value} {fields : List String}

theorem concatValues_of_texts (h : presentValues values = fields.map Value.text) :
    engine.concatValues values = .ok (.text (engine.concatPresent fields)) := by
  have htexts : (Fault.wrongType.unlessSome (texts? (fields.map Value.text))).map
      (Value.text ∘ engine.concatPresent) = .ok (.text (engine.concatPresent fields)) := by
    rw [texts?_map_text]
    rfl
  unfold concatValues
  rw [h]
  split
  · next hsingle =>
      obtain ⟨field, rfl, rfl⟩ := List.map_eq_singleton_iff.mp hsingle
      rfl
  · exact htexts

/-- A concatenation depends only on the fields that are there. -/
theorem fragment_concat (engine : Engine) (fields : List (Option String)) :
    engine.dialect.fragment "concat" (fields.map fieldValue) =
      .ok (.text (engine.concatPresent (present fields))) :=
  (engine.fragment_dialect .concat _).trans
    (concatValues_of_texts (presentValues_map_fieldValue fields))

theorem concatPresent_of_two_le {engine : Engine} (hengine : engine ≠ .mysql)
    (h : 2 ≤ fields.length) : engine.concatPresent fields = joinedByBars fields := by
  match engine, fields, h with
  | .mysql, _, _ => exact absurd rfl hengine
  | .oracle, _ :: _ :: _, _ => rfl
  | .sqlite, _ :: _ :: _, _ => rfl

theorem concatPresent_oracle_eq_sqlite_iff :
    oracle.concatPresent fields = sqlite.concatPresent fields ↔ fields.length ≠ 1 := by
  match fields with
  | [] => exact iff_of_true rfl (by decide)
  | [field] => exact iff_of_false (ne_joinedByBars_singleton field) (by simp)
  | _ :: _ :: _ => exact iff_of_true rfl (by simp)

end Engine

/-- The fields that are not missing are the arguments of a call for MySQL. For Oracle and SQLite they
stand between bars in parentheses when there are at least two, and are an empty text when there is
none. One alone is left as it is by Oracle only, so the two spell a concatenation alike exactly if the
number of its fields is not one. Missing fields change nothing anywhere. -/
theorem concat_agrees_iff_not_single (fields : List (Option String)) :
    Dialect.mysql.fragment "concat" (fields.map fieldValue) =
      .ok (.text ("CONCAT(" ++ ", ".intercalate (present fields) ++ ")")) ∧
    (present fields = [] → ∀ engine ∈ [Engine.oracle, .sqlite],
      engine.dialect.fragment "concat" (fields.map fieldValue) = .ok (.text "''")) ∧
    (∀ field, present fields = [field] →
      Dialect.oracle.fragment "concat" (fields.map fieldValue) = .ok (.text field) ∧
      Dialect.sqlite.fragment "concat" (fields.map fieldValue) = .ok (.text ("(" ++ field ++ ")"))) ∧
    (2 ≤ (present fields).length → ∀ engine ∈ [Engine.oracle, .sqlite],
      engine.dialect.fragment "concat" (fields.map fieldValue) =
        .ok (.text ("(" ++ " || ".intercalate (present fields) ++ ")"))) ∧
    (Dialect.oracle.fragment "concat" (fields.map fieldValue) =
      Dialect.sqlite.fragment "concat" (fields.map fieldValue) ↔ (present fields).length ≠ 1) ∧
    ∀ (engine : Engine) (before after : List (Option String)),
      engine.dialect.fragment "concat" ((before ++ none :: after).map fieldValue) =
        engine.dialect.fragment "concat" ((before ++ after).map fieldValue) := by
  have hmysql := Engine.fragment_concat .mysql fields
  have horacle := Engine.fragment_concat .oracle fields
  have hsqlite := Engine.fragment_concat .sqlite fields
  refine ⟨hmysql, ?_, ?_, ?_, ?_, ?_⟩
  · intro hnone engine hengine
    rw [engine.fragment_concat, hnone]
    rw [List.mem_cons, List.mem_singleton] at hengine
    rcases hengine with rfl | rfl
    · rfl
    · rfl
  · intro field hsingle
    rw [hsingle] at horacle hsqlite
    exact ⟨horacle, hsqlite⟩
  · intro hseveral engine hengine
    have hother : engine ≠ .mysql := by
      rintro rfl
      simp at hengine
    rw [engine.fragment_concat, Engine.concatPresent_of_two_le hother hseveral, joinedByBars]
  · have hiff := @Engine.concatPresent_oracle_eq_sqlite_iff (present fields)
    rw [← hiff]
    show Engine.oracle.dialect.fragment _ _ = Engine.sqlite.dialect.fragment _ _ ↔ _
    rw [horacle, hsqlite, Except.ok.injEq, Value.text.injEq]
  · intro engine before after
    rw [engine.fragment_concat, engine.fragment_concat, present_insert_none]

/-- Fields some of which are missing. -/
def sparseFields : List (Option String) := [none, some "first", none, none, some "last"]

theorem concat_agrees_for_sparseFields :
    2 ≤ (present sparseFields).length ∧
      (∀ engine ∈ [Engine.oracle, .sqlite],
        engine.dialect.fragment "concat" (sparseFields.map fieldValue) =
          .ok (.text "(first || last)")) ∧
      Dialect.oracle.fragment "concat" (sparseFields.map fieldValue) =
        Dialect.sqlite.fragment "concat" (sparseFields.map fieldValue) := by
  obtain ⟨-, -, -, hseveral, hagree, -⟩ := concat_agrees_iff_not_single sparseFields
  exact ⟨by decide, hseveral (by decide), hagree.mpr (by decide)⟩

/-- One field alone is spelled in two ways. -/
theorem single_field_enclosed_by_sqlite :
    present [none, some "size"] = ["size"] ∧
      Dialect.oracle.fragment "concat" ([none, some "size"].map fieldValue) = .ok (.text "size") ∧
      Dialect.sqlite.fragment "concat" ([none, some "size"].map fieldValue) =
        .ok (.text "(size)") :=
  ⟨rfl, rfl, rfl⟩

end SqlBackend
