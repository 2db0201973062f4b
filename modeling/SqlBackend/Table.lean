/-!
# Tables in insertion order

A `Table` maps keys to values and remembers the order in which the keys came. Putting a value under
a key that is present replaces the value and leaves the key in its place; a new key goes to the end.
No key occurs twice, and a lookup sees exactly the last value put under its key.
-/

namespace SqlBackend

/-- A finite map with its keys in order of insertion. -/
structure Table (κ α : Type) where
  entries : List (κ × α)
  distinct : (entries.map Prod.fst).Nodup

namespace Table

variable {κ α β : Type}

def empty : Table κ α := ⟨[], List.nodup_nil⟩

instance : Inhabited (Table κ α) := ⟨empty⟩

def keys (t : Table κ α) : List κ := t.entries.map Prod.fst

theorem ext_entries {t u : Table κ α} (h : t.entries = u.entries) : t = u := by
  cases t; cases u; cases h; rfl

/-- The table with each value replaced by its image; keys and order stay. -/
def mapValues (f : κ → α → β) (t : Table κ α) : Table κ β :=
  ⟨t.entries.map fun entry => (entry.1, f entry.1 entry.2), by
    have h := t.distinct
    rwa [List.map_map]⟩

@[simp] theorem keys_mapValues (f : κ → α → β) (t : Table κ α) :
    (t.mapValues f).keys = t.keys := by
  simp [keys, mapValues, Function.comp_def]

/-- The entries whose keys pass a test. -/
def filterKeys (p : κ → Bool) (t : Table κ α) : Table κ α :=
  ⟨t.entries.filter fun entry => p entry.1,
    t.distinct.sublist ((List.filter_sublist).map _)⟩

variable [DecidableEq κ]

/-- The value of the first entry under a key. -/
def lookupEntry (k : κ) : List (κ × α) → Option α
  | [] => none
  | (k', v) :: rest => if k' = k then some v else lookupEntry k rest

/-- Entries with `v` under `k`, in the place of the entry that has the key or else at the end. -/
def putEntry (k : κ) (v : α) : List (κ × α) → List (κ × α)
  | [] => [(k, v)]
  | (k', v') :: rest => if k' = k then (k, v) :: rest else (k', v') :: putEntry k v rest

@[simp] theorem lookupEntry_nil (k : κ) : lookupEntry k ([] : List (κ × α)) = none := rfl

theorem lookupEntry_putEntry (k k' : κ) (v : α) (entries : List (κ × α)) :
    lookupEntry k' (putEntry k v entries) =
      if k = k' then some v else lookupEntry k' entries := by
  induction entries with
  | nil => simp [putEntry, lookupEntry]
  | cons entry rest ih =>
    obtain ⟨key, value⟩ := entry
    by_cases h : key = k
    · subst h; by_cases h' : key = k' <;> simp [putEntry, lookupEntry, h']
    · by_cases h' : k = k'
      · subst h'; simp [putEntry, lookupEntry, h, ih]
      · simp [putEntry, lookupEntry, h, h', ih]

theorem keys_putEntry (k : κ) (v : α) (entries : List (κ × α)) :
    (putEntry k v entries).map Prod.fst =
      if k ∈ entries.map Prod.fst then entries.map Prod.fst
      else entries.map Prod.fst ++ [k] := by
  induction entries with
  | nil => rfl
  | cons entry rest ih =>
    obtain ⟨key, value⟩ := entry
    by_cases h : key = k
    · subst h; simp [putEntry]
    · have hk : ¬ k = key := fun e => h e.symm
      simp only [putEntry, h, if_false, List.map_cons, ih, List.mem_cons, hk, false_or]
      split <;> simp

def put (t : Table κ α) (k : κ) (v : α) : Table κ α :=
  ⟨putEntry k v t.entries, by
    rw [keys_putEntry]
    split
    · exact t.distinct
    · next h =>
      rw [List.nodup_append]
      refine ⟨t.distinct, by simp, ?_⟩
      intro a ha b hb
      rw [List.mem_singleton] at hb
      subst hb
      exact fun e => h (e ▸ ha)⟩

def get? (t : Table κ α) (k : κ) : Option α := lookupEntry k t.entries

def has (t : Table κ α) (k : κ) : Bool := (t.get? k).isSome

def erase (t : Table κ α) (k : κ) : Table κ α := t.filterKeys (· ≠ k)

/-- The table of a list of pairs, put one after the other. -/
def ofPairs (pairs : List (κ × α)) : Table κ α :=
  pairs.foldl (fun t pair => t.put pair.1 pair.2) empty

theorem get?_put (t : Table κ α) (k k' : κ) (v : α) :
    (t.put k v).get? k' = if k = k' then some v else t.get? k' :=
  lookupEntry_putEntry k k' v t.entries

@[simp] theorem get?_put_self (t : Table κ α) (k : κ) (v : α) :
    (t.put k v).get? k = some v := by
  simp [get?_put]

theorem get?_put_of_ne (t : Table κ α) {k k' : κ} (v : α) (h : k ≠ k') :
    (t.put k v).get? k' = t.get? k' := by
  simp [get?_put, h]

theorem keys_put (t : Table κ α) (k : κ) (v : α) :
    (t.put k v).keys = if k ∈ t.keys then t.keys else t.keys ++ [k] :=
  keys_putEntry k v t.entries

end Table

end SqlBackend
