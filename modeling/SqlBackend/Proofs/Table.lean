import Mathlib.Data.List.Nodup
import SqlBackend.Table

/-!
# Tables and their entries

No key of a table occurs twice, so a lookup finds an entry exactly when the table holds it. Two tables
are therefore the same map exactly when their entries are the same up to order, and the order of the
entries is all that a lookup does not see.
-/

namespace SqlBackend.Table

variable {κ α β : Type}

theorem nodup_entries (t : Table κ α) : t.entries.Nodup :=
  List.Nodup.of_map Prod.fst t.distinct

variable [DecidableEq κ]

theorem lookupEntry_cons_self (k : κ) (v : α) (rest : List (κ × α)) :
    lookupEntry k ((k, v) :: rest) = some v := by
  rw [lookupEntry, if_pos rfl]

theorem lookupEntry_cons_of_ne {k k' : κ} (v : α) (rest : List (κ × α)) (h : k' ≠ k) :
    lookupEntry k ((k', v) :: rest) = lookupEntry k rest := by
  rw [lookupEntry, if_neg h]

theorem mem_of_lookupEntry_eq_some {k : κ} {v : α} {entries : List (κ × α)}
    (h : lookupEntry k entries = some v) : (k, v) ∈ entries := by
  induction entries with
  | nil => cases h
  | cons entry rest ih =>
      obtain ⟨key, value⟩ := entry
      by_cases hkey : key = k
      · subst hkey
        rw [lookupEntry_cons_self] at h
        cases h
        exact List.mem_cons_self
      · rw [lookupEntry_cons_of_ne value rest hkey] at h
        exact List.mem_cons_of_mem _ (ih h)

theorem lookupEntry_eq_none_of_not_mem {k : κ} {entries : List (κ × α)}
    (h : k ∉ entries.map Prod.fst) : lookupEntry k entries = none := by
  cases hlookup : lookupEntry k entries with
  | none => rfl
  | some v =>
      exact absurd (List.mem_map_of_mem (mem_of_lookupEntry_eq_some hlookup)) h

theorem lookupEntry_eq_some_of_mem {k : κ} {v : α} {entries : List (κ × α)}
    (hkeys : (entries.map Prod.fst).Nodup) (h : (k, v) ∈ entries) :
    lookupEntry k entries = some v := by
  induction entries with
  | nil => cases h
  | cons entry rest ih =>
      obtain ⟨key, value⟩ := entry
      obtain ⟨hkey, hrest⟩ := List.nodup_cons.mp hkeys
      rcases List.mem_cons.mp h with heq | hmem
      · cases heq
        exact lookupEntry_cons_self k v rest
      · have hne : key ≠ k := by
          rintro rfl
          have hmem' : (key, v).1 ∈ rest.map Prod.fst := List.mem_map_of_mem hmem
          exact hkey hmem'
        rw [lookupEntry_cons_of_ne value rest hne]
        exact ih hrest hmem

/-- A lookup finds what the table holds, and nothing else. -/
theorem get?_eq_some_iff {t : Table κ α} {k : κ} {v : α} :
    t.get? k = some v ↔ (k, v) ∈ t.entries :=
  ⟨mem_of_lookupEntry_eq_some, lookupEntry_eq_some_of_mem t.distinct⟩

theorem get?_mapValues (f : κ → α → β) (t : Table κ α) (k : κ) :
    (t.mapValues f).get? k = (t.get? k).map (f k) := by
  show lookupEntry k (t.entries.map fun entry => (entry.1, f entry.1 entry.2)) =
    (lookupEntry k t.entries).map (f k)
  induction t.entries with
  | nil => rfl
  | cons entry rest ih =>
      obtain ⟨key, value⟩ := entry
      rw [List.map_cons]
      by_cases hkey : key = k
      · subst hkey
        rw [lookupEntry_cons_self, lookupEntry_cons_self, Option.map_some]
      · rw [lookupEntry_cons_of_ne _ _ hkey, lookupEntry_cons_of_ne _ _ hkey, ih]

theorem get?_eq_of_perm {t u : Table κ α} (h : t.entries.Perm u.entries) (k : κ) :
    t.get? k = u.get? k := by
  apply Option.ext
  intro v
  rw [get?_eq_some_iff, get?_eq_some_iff]
  exact h.mem_iff

/-- Tables that no lookup tells apart differ in the order of their entries only. -/
theorem perm_of_get?_eq {t u : Table κ α} (h : ∀ k, t.get? k = u.get? k) :
    t.entries.Perm u.entries := by
  rw [List.perm_ext_iff_of_nodup (nodup_entries t) (nodup_entries u)]
  intro entry
  obtain ⟨k, v⟩ := entry
  rw [← get?_eq_some_iff, ← get?_eq_some_iff, h k]

theorem mem_keys_iff {t : Table κ α} {k : κ} : k ∈ t.keys ↔ (t.get? k).isSome = true := by
  rw [Option.isSome_iff_exists, keys, List.mem_map]
  constructor
  · rintro ⟨⟨_, v⟩, hmem, rfl⟩
    exact ⟨v, get?_eq_some_iff.mpr hmem⟩
  · rintro ⟨v, hget⟩
    exact ⟨(k, v), get?_eq_some_iff.mp hget, rfl⟩

theorem has_eq_false_iff {t : Table κ α} {k : κ} : t.has k = false ↔ t.get? k = none := by
  rw [has, Option.isSome_eq_false_iff, Option.isNone_iff_eq_none]

/-- A table is the list of its keys together with what a lookup finds under them. -/
theorem map_keys_get? (t : Table κ α) :
    t.keys.map (fun k => (k, t.get? k)) = t.entries.map fun entry => (entry.1, some entry.2) := by
  rw [keys, List.map_map]
  apply List.map_congr_left
  intro entry hmem
  have hget : t.get? entry.1 = some entry.2 := get?_eq_some_iff.mpr hmem
  rw [Function.comp_apply, hget]

theorem ext_keys_get? {t u : Table κ α} (hkeys : t.keys = u.keys)
    (hget : ∀ k, t.get? k = u.get? k) : t = u := by
  apply ext_entries
  have hmap : t.entries.map (fun entry => (entry.1, some entry.2)) =
      u.entries.map fun entry => (entry.1, some entry.2) := by
    rw [← map_keys_get?, ← map_keys_get?, hkeys]
    simp only [hget]
  refine List.map_injective_iff.mpr ?_ hmap
  rintro ⟨k, v⟩ ⟨k', v'⟩ heq
  cases heq
  rfl

/-- The images of the values are put where the values were put. -/
theorem mapValues_put (f : κ → α → β) (t : Table κ α) (k : κ) (v : α) :
    (t.put k v).mapValues f = (t.mapValues f).put k (f k v) := by
  apply ext_keys_get?
  · rw [keys_mapValues, keys_put, keys_put, keys_mapValues]
  · intro k'
    rw [get?_mapValues, get?_put, get?_put, get?_mapValues]
    by_cases hk : k = k'
    · subst hk
      rw [if_pos rfl, if_pos rfl, Option.map_some]
    · rw [if_neg hk, if_neg hk]

end SqlBackend.Table
