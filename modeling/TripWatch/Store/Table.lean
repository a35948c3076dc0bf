/-!
# Tables by key

A finite table of values by text keys. The order of the entries carries no meaning, so a table is
known by what it returns for each key.

## Main definitions

* `Table.get?`, `Table.insert`, `Table.filter`, `Table.values` — what is done with a table

## Main results

* `Table.get?_insert` — an insertion replaces what its key had and touches no other key
* `Table.get?_filter` — of what a key had, a filter keeps what passes the test
* `Table.get?_eq_some_iff` — values of keys are entries
-/

namespace TripWatch

/-- A table of values by key. -/
structure Table (α : Type) where
  /-- The entries. -/
  entries : List (String × α)
  /-- No key stands twice. -/
  nodup : (entries.map Prod.fst).Nodup

namespace Table

variable {α : Type}

/-- The table without entries. -/
def empty : Table α := ⟨[], by simp⟩

instance : Inhabited (Table α) := ⟨empty⟩

/-- The value of a key. -/
def get? (t : Table α) (key : String) : Option α := t.entries.lookup key

/-- The entries that pass a test. -/
def filter (keep : String → α → Bool) (t : Table α) : Table α where
  entries := t.entries.filter fun (k, a) => keep k a
  nodup := t.nodup.sublist (List.filter_sublist.map Prod.fst)

/-- The table with a value for a key, in place of any other one. -/
def insert (t : Table α) (key : String) (value : α) : Table α where
  entries := (key, value) :: (t.filter fun k _ => k != key).entries
  nodup := by
    refine List.nodup_cons.2 ⟨?_, (t.filter _).nodup⟩
    simp [filter]

/-- The values, each entry's once. -/
def values (t : Table α) : List α := t.entries.map Prod.snd

/-- How many entries there are. -/
def size (t : Table α) : Nat := t.entries.length

/-- The table of a list of pairs; of several with one key the last one counts. -/
def ofList (pairs : List (String × α)) : Table α :=
  pairs.foldl (fun t (k, a) => t.insert k a) empty

@[simp] theorem get?_empty (key : String) : (empty : Table α).get? key = none := rfl

theorem lookup_filter_ne (entries : List (String × α)) {key other : String} (h : other ≠ key) :
    (entries.filter fun p => p.1 != key).lookup other = entries.lookup other := by
  induction entries with
  | nil => rfl
  | cons p rest ih =>
    obtain ⟨k, a⟩ := p
    by_cases hk : k = key
    · subst hk
      have : (other == k) = false := by simpa using h
      simp [List.lookup_cons, ih, this]
    · by_cases ho : other == k <;> simp [hk, List.lookup_cons, ho, ih]

theorem get?_insert (t : Table α) (key other : String) (value : α) :
    (t.insert key value).get? other = if other = key then some value else t.get? other := by
  by_cases h : other = key
  · simp [get?, insert, h]
  · have : (other == key) = false := by simpa using h
    simp only [get?, insert, filter, List.lookup_cons, this, h, if_false]
    exact lookup_filter_ne t.entries h

/-- The value of a key is what stands beside it in an entry. -/
theorem get?_eq_some_iff {t : Table α} {key : String} {value : α} :
    t.get? key = some value ↔ (key, value) ∈ t.entries := by
  obtain ⟨entries, nodup⟩ := t
  simp only [get?]
  induction entries with
  | nil => simp
  | cons p rest ih =>
    obtain ⟨k, a⟩ := p
    obtain ⟨hfresh, hrest⟩ := List.nodup_cons.1 nodup
    by_cases h : key = k
    · subst h
      have hnot : (key, value) ∉ rest := fun hmem =>
        hfresh (List.mem_map.2 ⟨_, hmem, rfl⟩)
      simp [hnot, eq_comm]
    · have : (key == k) = false := by simpa using h
      simp [List.lookup_cons, this, ih hrest, h]

theorem get?_filter (t : Table α) (keep : String → α → Bool) (key : String) :
    (t.filter keep).get? key = (t.get? key).filter (keep key) := by
  refine Option.ext fun value => ?_
  rw [get?_eq_some_iff, Option.filter_eq_some_iff, get?_eq_some_iff]
  simp [filter]

end Table

end TripWatch
