/-!
# Tables

A finite map with string keys, as a list of pairs without repeated keys.  What a table holds is read
off by `find?`; the lemmas say what each operation does to it.
-/

namespace LiveTree

/-- A finite map with string keys. -/
structure Table (α : Type) where
  entries : List (String × α)
  nodup : (entries.map (·.1)).Nodup

namespace Table

variable {α : Type}

/-- The table that holds nothing. -/
def empty : Table α := ⟨[], by simp⟩

/-- There is a table, if only the empty one. -/
instance : Inhabited (Table α) := ⟨empty⟩

/-- The value at a key. -/
def find? (table : Table α) (key : String) : Option α := table.entries.lookup key

/-- Whether a key has a value. -/
def contains (table : Table α) (key : String) : Bool := (table.find? key).isSome

/-- All keys, in no particular order. -/
def keys (table : Table α) : List String := table.entries.map (·.1)

/-- All values, in no particular order. -/
def values (table : Table α) : List α := table.entries.map (·.2)

/-- Removes a key. -/
def erase (table : Table α) (key : String) : Table α where
  entries := table.entries.filter (·.1 ≠ key)
  nodup := (List.filter_sublist.map _).nodup table.nodup

/-- Gives a key a value, in place of any earlier one. -/
def insert (table : Table α) (key : String) (value : α) : Table α where
  entries := (key, value) :: (table.erase key).entries
  nodup := by
    rw [List.map_cons, List.nodup_cons]
    exact ⟨by simp [erase], (table.erase key).nodup⟩

/-- Nothing is found in the empty table. -/
@[simp] theorem find?_empty (key : String) : (empty : Table α).find? key = none := rfl

/-- An entry with another key is passed over. -/
private theorem lookup_cons_of_ne {key other : String} (h : other ≠ key) (value : α)
    (rest : List (String × α)) : ((key, value) :: rest).lookup other = rest.lookup other := by
  rw [List.lookup_cons, beq_eq_false_iff_ne.2 h]

/-- Without the entries of a key, the key is not found, and every other key as before. -/
private theorem lookup_filter_ne (entries : List (String × α)) (key other : String) :
    (entries.filter (·.1 ≠ key)).lookup other =
      if other = key then none else entries.lookup other := by
  -- On the entries: the first one is left out or kept, and it is the one looked for or it is not.
  induction entries with
  | nil => simp
  | cons entry rest ih =>
    obtain ⟨k, v⟩ := entry
    by_cases hk : k = key
    · rw [List.filter_cons_of_neg (by simpa using hk), ih]
      by_cases ho : other = key
      · simp [ho]
      · rw [lookup_cons_of_ne (by rw [hk]; exact ho)]
    · rw [List.filter_cons_of_pos (by simpa using hk)]
      by_cases ho : other = k
      · subst ho
        simp [hk]
      · rw [lookup_cons_of_ne ho, lookup_cons_of_ne ho, ih]

/-- What is found after a key is removed. -/
theorem find?_erase (table : Table α) (key other : String) :
    (table.erase key).find? other = if other = key then none else table.find? other :=
  lookup_filter_ne table.entries key other

/-- What is found after a key is given a value. -/
theorem find?_insert (table : Table α) (key other : String) (value : α) :
    (table.insert key value).find? other =
      if other = key then some value else table.find? other := by
  by_cases h : other = key
  · simp [insert, find?, h]
  -- Another key is found in what is left when the key is removed.
  · have := table.find?_erase key other
    simp only [insert, find?, lookup_cons_of_ne h] at this ⊢
    exact this.trans (by simp [h])

/-- A key that has just been given a value is found with it. -/
@[simp] theorem find?_insert_self (table : Table α) (key : String) (value : α) :
    (table.insert key value).find? key = some value := by
  simp [find?_insert]

/-- A key that has just been removed is not found. -/
@[simp] theorem find?_erase_self (table : Table α) (key : String) :
    (table.erase key).find? key = none := by
  simp [find?_erase]

/-- In a list without repeated keys, the first entry with a key is the only one. -/
private theorem lookup_of_mem {key : String} {value : α} {entries : List (String × α)}
    (nodup : (entries.map (·.1)).Nodup) (h : (key, value) ∈ entries) :
    entries.lookup key = some value := by
  induction entries with
  | nil => exact nomatch h
  | cons first rest ih =>
    rw [List.map_cons, List.nodup_cons] at nodup
    rcases List.mem_cons.1 h with rfl | hrest
    · exact List.lookup_cons_self
    -- A later entry has another key, since keys are not repeated.
    · have hne : key ≠ first.1 := fun heq =>
        nodup.1 (heq ▸ List.mem_map.2 ⟨(key, value), hrest, rfl⟩)
      rw [List.lookup_cons, beq_eq_false_iff_ne.2 hne]
      exact ih nodup.2 hrest

/-- What a table holds is found under its key. -/
theorem find?_of_mem {table : Table α} {key : String} {value : α}
    (h : (key, value) ∈ table.entries) : table.find? key = some value :=
  lookup_of_mem table.nodup h

/-- What is found is one of the values. -/
theorem mem_values_of_find? {table : Table α} {key : String} {value : α}
    (h : table.find? key = some value) : value ∈ table.values := by
  obtain ⟨before, after, heq, -⟩ := List.lookup_eq_some_iff.1 h
  unfold values
  rw [heq]
  simp

end Table

end LiveTree
