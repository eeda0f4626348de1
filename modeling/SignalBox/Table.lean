namespace SignalBox

/-!
# Finite tables

A table is a list of entries in which every key stands once.  Writing to a key that is
present replaces its value where it stands, writing to a new key appends the entry, and
no operation reorders keys.  Two tables that were changed at no key are therefore equal
as values, and what an operation does is read through `get?` alone.
-/

/-- Entries under distinct keys, in the order in which the keys were first written. -/
structure Table (κ α : Type) where
  entries : List (κ × α)
  nodup : (entries.map Prod.fst).Nodup := by simp

namespace Table

variable {κ α : Type}

/-- Tables are their entries: the field on distinct keys carries no data. -/
theorem ext_entries {first second : Table κ α} (same : first.entries = second.entries) :
    first = second := by
  cases first; cases second; cases same; rfl

/-- The table without entries. -/
def empty : Table κ α where
  entries := []

instance : EmptyCollection (Table κ α) := ⟨empty⟩

instance : Inhabited (Table κ α) := ⟨empty⟩

instance [DecidableEq κ] [DecidableEq α] : DecidableEq (Table κ α) := fun first second =>
  decidable_of_iff (first.entries = second.entries)
    ⟨ext_entries, fun same => same ▸ rfl⟩

/-- The keys, in entry order. -/
def keys (table : Table κ α) : List κ :=
  table.entries.map Prod.fst

/-- The values, in entry order. -/
def values (table : Table κ α) : List α :=
  table.entries.map Prod.snd

/-- The number of entries. -/
def size (table : Table κ α) : Nat :=
  table.entries.length

variable [DecidableEq κ]

/-- The value of a key in a list of entries: the first entry decides. -/
def lookup (key : κ) : List (κ × α) → Option α
  | [] => none
  | entry :: rest => if entry.1 = key then some entry.2 else lookup key rest

/-- The value stored under a key. -/
def get? (table : Table κ α) (key : κ) : Option α :=
  lookup key table.entries

/-- Whether a key has an entry. -/
def contains (table : Table κ α) (key : κ) : Bool :=
  (table.get? key).isSome

/-- The list of a key; a key without entry has none. -/
def listed {β : Type} (table : Table κ (List β)) (key : κ) : List β :=
  (table.get? key).getD []

/-- Write a value into a list of entries. -/
def write (key : κ) (value : α) : List (κ × α) → List (κ × α)
  | [] => [(key, value)]
  | entry :: rest =>
    if entry.1 = key then (key, value) :: rest else entry :: write key value rest

private theorem mem_keys_write (key other : κ) (value : α) (entries : List (κ × α)) :
    other ∈ (write key value entries).map Prod.fst ↔
      other = key ∨ other ∈ entries.map Prod.fst := by
  induction entries with
  | nil => simp [write]
  | cons entry rest inductionHypothesis =>
    by_cases same : entry.1 = key
    · simp [write, same]
    · simp only [write, same, if_false, List.map_cons, List.mem_cons, inductionHypothesis]
      constructor
      · rintro (head | head | tail)
        · exact Or.inr (Or.inl head)
        · exact Or.inl head
        · exact Or.inr (Or.inr tail)
      · rintro (head | head | tail)
        · exact Or.inr (Or.inl head)
        · exact Or.inl head
        · exact Or.inr (Or.inr tail)

private theorem nodup_write (key : κ) (value : α) (entries : List (κ × α))
    (nodup : (entries.map Prod.fst).Nodup) :
    ((write key value entries).map Prod.fst).Nodup := by
  induction entries with
  | nil => simp [write]
  | cons entry rest inductionHypothesis =>
    rw [List.map_cons, List.nodup_cons] at nodup
    by_cases same : entry.1 = key
    · simp only [write, same, if_true, List.map_cons, List.nodup_cons]
      exact same ▸ nodup
    · simp only [write, same, if_false, List.map_cons, List.nodup_cons]
      refine ⟨fun member => ?_, inductionHypothesis nodup.2⟩
      rcases (mem_keys_write key entry.1 value rest).1 member with head | tail
      · exact same head
      · exact nodup.1 tail

/-- Store a value under a key, replacing the value it had. -/
def insert (table : Table κ α) (key : κ) (value : α) : Table κ α where
  entries := write key value table.entries
  nodup := nodup_write key value table.entries table.nodup

/-- Change the value of a key that is present; a key that is absent stays absent. -/
def modify (table : Table κ α) (key : κ) (change : α → α) : Table κ α where
  entries := table.entries.map fun entry =>
    (entry.1, if entry.1 = key then change entry.2 else entry.2)
  nodup := by
    rw [List.map_map]
    exact table.nodup

/-- The table of a list of entries; the last entry of a key decides its value. -/
def ofList (entries : List (κ × α)) : Table κ α :=
  entries.foldl (fun table entry => table.insert entry.1 entry.2) empty

private theorem lookup_write (key other : κ) (value : α) (entries : List (κ × α)) :
    lookup other (write key value entries) =
      if key = other then some value else lookup other entries := by
  induction entries with
  | nil => rfl
  | cons entry rest inductionHypothesis =>
    by_cases same : entry.1 = key <;> by_cases hit : key = other
    · simp [write, lookup, same, hit]
    · simp [write, lookup, same, hit]
    · subst hit
      simp [write, lookup, same, inductionHypothesis]
    · simp only [write, same, if_false, lookup, inductionHypothesis, hit]

theorem get?_insert (table : Table κ α) (key other : κ) (value : α) :
    (table.insert key value).get? other =
      if key = other then some value else table.get? other :=
  lookup_write key other value table.entries

theorem listed_insert {β : Type} (table : Table κ (List β)) (key other : κ) (values : List β) :
    (table.insert key values).listed other =
      if key = other then values else table.listed other := by
  rw [listed, get?_insert]
  by_cases same : key = other
  · rw [if_pos same, if_pos same, Option.getD_some]
  · rw [if_neg same, if_neg same, listed]

private theorem lookup_modify (key other : κ) (change : α → α) (entries : List (κ × α)) :
    lookup other (entries.map fun entry =>
        (entry.1, if entry.1 = key then change entry.2 else entry.2)) =
      (lookup other entries).map (fun value => if other = key then change value else value) := by
  induction entries with
  | nil => rfl
  | cons entry rest inductionHypothesis =>
    by_cases hit : entry.1 = other
    · simp [lookup, hit]
    · simp only [List.map_cons, lookup, hit, if_false, inductionHypothesis]

theorem get?_modify (table : Table κ α) (key other : κ) (change : α → α) :
    (table.modify key change).get? other =
      (table.get? other).map (fun value => if other = key then change value else value) :=
  lookup_modify key other change table.entries

theorem keys_modify (table : Table κ α) (key : κ) (change : α → α) :
    (table.modify key change).keys = table.keys := by
  simp only [keys, modify, List.map_map]
  rfl

theorem mem_keys_insert (table : Table κ α) (key other : κ) (value : α) :
    other ∈ (table.insert key value).keys ↔ other = key ∨ other ∈ table.keys :=
  mem_keys_write key other value table.entries

/-- The entry of a new key comes last. -/
theorem entries_insert_of_not_mem {table : Table κ α} {key : κ} (absent : key ∉ table.keys)
    (value : α) : (table.insert key value).entries = table.entries ++ [(key, value)] := by
  have appended : ∀ entries : List (κ × α), key ∉ entries.map Prod.fst →
      write key value entries = entries ++ [(key, value)] := by
    intro entries new
    induction entries with
    | nil => rfl
    | cons entry rest inductionHypothesis =>
      rw [List.map_cons, List.mem_cons, not_or] at new
      rw [write, if_neg (Ne.symm new.1), inductionHypothesis new.2, List.cons_append]
  exact appended table.entries absent

theorem keys_insert_of_not_mem {table : Table κ α} {key : κ} (absent : key ∉ table.keys)
    (value : α) : (table.insert key value).keys = table.keys ++ [key] := by
  rw [keys, entries_insert_of_not_mem absent, List.map_append]
  rfl

private theorem lookup_isSome (key : κ) (entries : List (κ × α)) :
    (lookup key entries).isSome = true ↔ key ∈ entries.map Prod.fst := by
  induction entries with
  | nil => simp [lookup]
  | cons entry rest inductionHypothesis =>
    by_cases hit : entry.1 = key
    · simp [lookup, hit]
    · simp only [lookup, hit, if_false, inductionHypothesis, List.map_cons, List.mem_cons,
        Ne.symm hit, false_or]

theorem contains_iff_mem_keys (table : Table κ α) (key : κ) :
    table.contains key = true ↔ key ∈ table.keys :=
  lookup_isSome key table.entries

theorem mem_keys_iff_get? (table : Table κ α) (key : κ) :
    key ∈ table.keys ↔ ∃ value, table.get? key = some value := by
  rw [← contains_iff_mem_keys, contains, Option.isSome_iff_exists]

/-- A key has the value that stands with it; no other entry has the key. -/
theorem get?_eq_some_iff {table : Table κ α} {key : κ} {value : α} :
    table.get? key = some value ↔ (key, value) ∈ table.entries := by
  have listed : ∀ entries : List (κ × α), (entries.map Prod.fst).Nodup →
      (lookup key entries = some value ↔ (key, value) ∈ entries) := by
    intro entries nodup
    induction entries with
    | nil => simp [lookup]
    | cons entry rest inductionHypothesis =>
      rw [List.map_cons, List.nodup_cons] at nodup
      rw [lookup, List.mem_cons]
      by_cases hit : entry.1 = key
      · rw [if_pos hit, Option.some.injEq]
        constructor
        · exact fun same => .inl (Prod.ext hit.symm same.symm)
        · rintro (head | later)
          · exact congrArg Prod.snd head.symm
          · exact absurd (List.mem_map_of_mem later) (hit ▸ nodup.1)
      · rw [if_neg hit, inductionHypothesis nodup.2]
        constructor
        · exact .inr
        · rintro (head | later)
          · exact absurd (congrArg Prod.fst head.symm) hit
          · exact later
  exact listed table.entries table.nodup

theorem mem_values_of_get? {table : Table κ α} {key : κ} {value : α}
    (found : table.get? key = some value) : value ∈ table.values :=
  List.mem_map_of_mem (get?_eq_some_iff.1 found)

/-- The values are those of the keys, in entry order. -/
theorem map_get?_keys (table : Table κ α) :
    table.keys.map table.get? = table.values.map some := by
  have listed : ∀ entries : List (κ × α), (entries.map Prod.fst).Nodup →
      (entries.map Prod.fst).map (fun key => lookup key entries) =
        (entries.map Prod.snd).map some := by
    intro entries nodup
    induction entries with
    | nil => rfl
    | cons entry rest inductionHypothesis =>
      rw [List.map_cons, List.nodup_cons] at nodup
      rw [List.map_cons, List.map_cons, List.map_cons, List.map_cons, lookup, if_pos rfl,
        ← inductionHypothesis nodup.2]
      refine congrArg _ (List.map_congr_left fun key member => ?_)
      have later : entry.1 ≠ key := by
        intro same
        rw [same] at nodup
        exact nodup.1 member
      rw [lookup, if_neg later]
  exact listed table.entries table.nodup

/-- Tables with the same keys in the same order and the same values under them are equal. -/
theorem ext_get? {first second : Table κ α} (keys : first.keys = second.keys)
    (same : ∀ key, first.get? key = second.get? key) : first = second := by
  have paired : ∀ table : Table κ α, table.entries = table.keys.zip table.values := by
    intro table
    rw [Table.keys, values, ← List.unzip_fst, ← List.unzip_snd, List.zip_unzip]
  have mapped : first.values.map some = second.values.map some := by
    rw [← map_get?_keys, ← map_get?_keys, keys]
    exact List.map_congr_left fun key _ => same key
  refine ext_entries ?_
  rw [paired, paired, keys, (List.map_inj_right fun _ _ => Option.some.inj).1 mapped]

theorem mem_keys_ofList (entries : List (κ × α)) (key : κ) :
    key ∈ (ofList entries).keys ↔ key ∈ entries.map Prod.fst := by
  have collected : ∀ table : Table κ α,
      key ∈ (entries.foldl (fun table entry => table.insert entry.1 entry.2) table).keys ↔
        key ∈ table.keys ∨ key ∈ entries.map Prod.fst := by
    induction entries with
    | nil => simp
    | cons entry rest inductionHypothesis =>
      intro table
      rw [List.foldl_cons, inductionHypothesis, mem_keys_insert, List.map_cons, List.mem_cons,
        or_assoc, or_left_comm]
  rw [ofList, collected empty]
  simp [empty, keys]

/-- Every value of the table of a list stands in the list. -/
theorem mem_of_get?_ofList {entries : List (κ × α)} {key : κ} {value : α}
    (found : (ofList entries).get? key = some value) : (key, value) ∈ entries := by
  have collected : ∀ table : Table κ α,
      (entries.foldl (fun table entry => table.insert entry.1 entry.2) table).get? key =
          some value →
        table.get? key = some value ∨ (key, value) ∈ entries := by
    clear found
    induction entries with
    | nil =>
      intro table found
      exact Or.inl found
    | cons entry rest inductionHypothesis =>
      intro table found
      rcases inductionHypothesis (table.insert entry.1 entry.2) found with before | later
      · rw [get?_insert] at before
        by_cases same : entry.1 = key
        · rw [if_pos same] at before
          have whole : entry = (key, value) := Prod.ext same (Option.some.inj before)
          exact Or.inr (whole ▸ List.mem_cons_self)
        · rw [if_neg same] at before
          exact Or.inl before
      · exact Or.inr (List.mem_cons_of_mem entry later)
  rcases collected empty found with before | listed
  · cases before
  · exact listed

end Table

end SignalBox
