/-!
# Tables in order of entry

A table is a list of keys with values in which no key is entered twice.

- `Table.put`: enters a value; a key that is already there keeps its place.
- `Table.ofList`: enters the pairs of a list one after another, so that the last value of a key
  counts, at the place of the first.
- `Table.lookup_put`: what is found after an entry.
- `Table.lookup_eq_some_of_mem`, `Table.mem_of_lookup_eq_some`: the pairs are what is found.
- `Table.nodup_keys_ofList`: no key is entered twice.
-/

namespace Swimlane.Table

variable {κ ν : Type} [DecidableEq κ]

/-- Enters a value; a key that is already there keeps its place and takes the new value. -/
def put (key : κ) (value : ν) : List (κ × ν) → List (κ × ν)
  | [] => [(key, value)]
  | (k, v) :: rest => if k = key then (k, value) :: rest else (k, v) :: put key value rest

/-- Enters the pairs of a list one after another. -/
def ofList (pairs : List (κ × ν)) : List (κ × ν) :=
  pairs.foldl (fun table p => put p.1 p.2 table) []

theorem lookup_put (key k : κ) (value : ν) (table : List (κ × ν)) :
    (put key value table).lookup k = if k = key then some value else table.lookup k := by
  induction table with
  | nil =>
    by_cases h : k = key
    · simp [put, h]
    · have hb : (k == key) = false := by simpa using h
      simp [put, h, List.lookup_cons, hb]
  | cons p rest ih =>
    obtain ⟨k', v'⟩ := p
    by_cases hp : k' = key
    · by_cases h : k = key
      · simp [put, hp, h]
      · have hb : (k == key) = false := by simpa using h
        simp [put, hp, h, List.lookup_cons, hb]
    · by_cases hk : k = k'
      · subst hk
        simp [put, hp]
      · have hb : (k == k') = false := by simpa using hk
        simp [put, hp, List.lookup_cons, hb, ih]

theorem map_fst_put (key : κ) (value : ν) (table : List (κ × ν)) :
    (put key value table).map (·.1) =
      if key ∈ table.map (·.1) then table.map (·.1) else table.map (·.1) ++ [key] := by
  induction table with
  | nil => simp [put]
  | cons p rest ih =>
    by_cases hp : p.1 = key
    · simp [put, hp]
    · have hk : ¬ key = p.1 := fun h => hp h.symm
      by_cases h : key ∈ rest.map (·.1) <;> simp_all [put]

theorem nodup_keys_put (key : κ) (value : ν) {table : List (κ × ν)}
    (h : (table.map (·.1)).Nodup) : ((put key value table).map (·.1)).Nodup := by
  rw [map_fst_put]
  split
  · exact h
  · next hk =>
    rw [List.nodup_append]
    exact ⟨h, by simp, fun a ha b hb => by simp at hb; subst hb; exact fun e => hk (e ▸ ha)⟩

/-- Where no key is entered twice, every pair is found by its key. -/
theorem lookup_eq_some_of_mem {key : κ} {value : ν} {table : List (κ × ν)}
    (h : (table.map (·.1)).Nodup) (hmem : (key, value) ∈ table) :
    table.lookup key = some value := by
  induction table with
  | nil => cases hmem
  | cons p rest ih =>
    obtain ⟨hp, hrest⟩ := List.nodup_cons.1 h
    rcases List.mem_cons.1 hmem with rfl | hmem
    · exact List.lookup_cons_self
    · have hne : key ≠ p.1 := fun hk => hp (List.mem_map.2 ⟨_, hmem, hk⟩)
      rw [List.lookup_cons, beq_eq_false_iff_ne.2 hne]
      exact ih hrest hmem

/-- What is found is a pair of the table. -/
theorem mem_of_lookup_eq_some {key : κ} {value : ν} {table : List (κ × ν)}
    (h : table.lookup key = some value) : (key, value) ∈ table := by
  induction table with
  | nil => cases h
  | cons p rest ih =>
    rw [List.lookup_cons] at h
    cases hk : key == p.1 with
    | true =>
      rw [hk] at h
      cases h
      rw [eq_of_beq hk]
      exact .head _
    | false =>
      rw [hk] at h
      exact .tail _ (ih h)

/-- No key is entered twice. -/
theorem nodup_keys_ofList (pairs : List (κ × ν)) : ((ofList pairs).map (·.1)).Nodup := by
  suffices ∀ table : List (κ × ν), (table.map (·.1)).Nodup →
      ((pairs.foldl (fun t p => put p.1 p.2 t) table).map (·.1)).Nodup from this [] .nil
  induction pairs with
  | nil => exact fun _ h => h
  | cons p rest ih => exact fun table h => ih _ (nodup_keys_put _ _ h)

end Swimlane.Table
