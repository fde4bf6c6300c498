import Mathlib.Data.List.Nodup

/-!
# Keyed tables

A table is a list of rows no two of which share a primary key, the key being a
function of the row.  The uniqueness is a field, so a table with two rows of one
key cannot be built.  The operations are the ones a keyed store offers: look a
key up, insert a row whose key is new, replace the row that carries the key of a
given row, and put a row whether or not its key is there.

Each operation is described by what a later `lookup` returns and by which rows
are members afterwards; nothing else about the row order is promised.
-/

set_option autoImplicit false

/-- Rows with pairwise different primary keys. -/
structure Table {ρ κ : Type} (key : ρ → κ) where
  rows : List ρ
  unique : (rows.map key).Nodup

namespace Table

variable {ρ κ : Type} {key : ρ → κ}

instance : Membership ρ (Table key) := ⟨fun table row => row ∈ table.rows⟩

theorem mem_def {table : Table key} {row : ρ} : row ∈ table ↔ row ∈ table.rows := Iff.rfl

/-- Two rows of a table with one key are one row. -/
theorem eq_of_key_eq {table : Table key} {row other : ρ} (present : row ∈ table)
    (otherPresent : other ∈ table) (sameKey : key row = key other) : row = other :=
  List.inj_on_of_nodup_map table.unique present otherPresent sameKey

/-- The table with no rows. -/
def empty : Table key := ⟨[], List.nodup_nil⟩

@[simp]
theorem not_mem_empty (row : ρ) : row ∉ (empty : Table key) := List.not_mem_nil

section Keyed

variable [DecidableEq κ]

/-! ## Lookup -/

/-- The row that carries a key. -/
def lookup (table : Table key) (wanted : κ) : Option ρ :=
  table.rows.find? fun row => decide (key row = wanted)

@[simp]
theorem lookup_empty (wanted : κ) : (empty : Table key).lookup wanted = none := rfl

theorem lookup_eq_some_iff {table : Table key} {wanted : κ} {row : ρ} :
    table.lookup wanted = some row ↔ row ∈ table ∧ key row = wanted := by
  constructor
  · intro found
    exact ⟨List.mem_of_find?_eq_some found, by simpa using List.find?_some found⟩
  · rintro ⟨present, rfl⟩
    cases found : table.lookup (key row) with
    | none =>
        have missing := List.find?_eq_none.mp found row present
        simp at missing
    | some other =>
        have otherPresent : other ∈ table := List.mem_of_find?_eq_some found
        have otherKey : key other = key row := by simpa using List.find?_some found
        rw [eq_of_key_eq otherPresent present otherKey]

theorem lookup_eq_none_iff {table : Table key} {wanted : κ} :
    table.lookup wanted = none ↔ ∀ row ∈ table, key row ≠ wanted := by
  simp [lookup, List.find?_eq_none, mem_def]

theorem lookup_of_mem {table : Table key} {row : ρ} (present : row ∈ table) :
    table.lookup (key row) = some row :=
  lookup_eq_some_iff.mpr ⟨present, rfl⟩

theorem mem_of_lookup {table : Table key} {wanted : κ} {row : ρ}
    (found : table.lookup wanted = some row) : row ∈ table :=
  (lookup_eq_some_iff.mp found).1

theorem key_of_lookup {table : Table key} {wanted : κ} {row : ρ}
    (found : table.lookup wanted = some row) : key row = wanted :=
  (lookup_eq_some_iff.mp found).2

/-! ## Insertion of a new key -/

/-- The table with a row added at the end, when no row carries its key. -/
def insert (table : Table key) (row : ρ) (fresh : table.lookup (key row) = none) : Table key where
  rows := table.rows ++ [row]
  unique := by
    rw [List.map_append, List.nodup_append]
    refine ⟨table.unique, List.nodup_singleton _, ?_⟩
    intro present mem new isNew
    obtain ⟨old, oldMem, rfl⟩ := List.mem_map.mp mem
    rw [List.map_singleton, List.mem_singleton] at isNew
    subst isNew
    exact lookup_eq_none_iff.mp fresh old oldMem

theorem insert_congr {table other : Table key} (same : table = other) {row : ρ}
    (fresh : table.lookup (key row) = none) (otherFresh : other.lookup (key row) = none) :
    table.insert row fresh = other.insert row otherFresh := by
  subst same
  rfl

/-- Add a row, or report that its key is taken. -/
def insert? (table : Table key) (row : ρ) : Option (Table key) :=
  if fresh : table.lookup (key row) = none then some (table.insert row fresh) else none

theorem insert?_eq_some_iff {table grown : Table key} {row : ρ} :
    table.insert? row = some grown ↔
      ∃ fresh : table.lookup (key row) = none, grown = table.insert row fresh := by
  unfold insert?
  split
  · rename_i fresh
    simp [fresh, eq_comm]
  · rename_i taken
    simp [taken]

@[simp]
theorem mem_insert {table : Table key} {row other : ρ} {fresh : table.lookup (key row) = none} :
    other ∈ table.insert row fresh ↔ other ∈ table ∨ other = row := by
  simp [mem_def, insert]

theorem lookup_insert {table : Table key} {row : ρ} {fresh : table.lookup (key row) = none}
    (wanted : κ) :
    (table.insert row fresh).lookup wanted =
      if key row = wanted then some row else table.lookup wanted := by
  split
  · rename_i same
    subst same
    exact lookup_of_mem (mem_insert.mpr (.inr rfl))
  · rename_i different
    simp [lookup, insert, List.find?_append, different]

/-! ## Replacement of an existing row -/

/-- The table with the row that carries `row`'s key exchanged for `row`. -/
def replace (table : Table key) (row : ρ) : Table key where
  rows := table.rows.map fun old => if key old = key row then row else old
  unique := by
    have keysKept : (table.rows.map fun old => if key old = key row then row else old).map key
        = table.rows.map key := by
      rw [List.map_map]
      refine List.map_congr_left fun old _ => ?_
      simp only [Function.comp_apply]
      split <;> simp_all
    rw [keysKept]
    exact table.unique

theorem mem_replace {table : Table key} {row other : ρ} :
    other ∈ table.replace row ↔
      (other ∈ table ∧ key other ≠ key row) ∨
        (other = row ∧ ∃ old ∈ table, key old = key row) := by
  simp only [mem_def, replace, List.mem_map]
  constructor
  · rintro ⟨old, oldMem, rfl⟩
    split
    · rename_i same
      exact .inr ⟨rfl, old, oldMem, same⟩
    · rename_i different
      exact .inl ⟨oldMem, different⟩
  · rintro (⟨otherMem, different⟩ | ⟨rfl, old, oldMem, same⟩)
    · exact ⟨other, otherMem, if_neg different⟩
    · exact ⟨old, oldMem, if_pos same⟩

theorem lookup_replace (table : Table key) (row : ρ) (wanted : κ) :
    (table.replace row).lookup wanted =
      if key row = wanted then (table.lookup wanted).map fun _ => row else table.lookup wanted := by
  split
  · rename_i same
    subst same
    cases found : table.lookup (key row) with
    | none =>
        refine lookup_eq_none_iff.mpr fun other otherMem => ?_
        rcases mem_replace.mp otherMem with ⟨_, different⟩ | ⟨rfl, old, oldMem, same⟩
        · exact different
        · exact absurd same (lookup_eq_none_iff.mp found old oldMem)
    | some old =>
        exact lookup_of_mem (mem_replace.mpr
          (.inr ⟨rfl, old, mem_of_lookup found, key_of_lookup found⟩))
  · rename_i different
    cases found : table.lookup wanted with
    | none =>
        refine lookup_eq_none_iff.mpr fun other otherMem => ?_
        rcases mem_replace.mp otherMem with ⟨present, _⟩ | ⟨rfl, _⟩
        · exact lookup_eq_none_iff.mp found other present
        · exact different
    | some old =>
        have oldKey := key_of_lookup found
        refine lookup_eq_some_iff.mpr ⟨mem_replace.mpr (.inl ⟨mem_of_lookup found, ?_⟩), oldKey⟩
        rw [oldKey]
        exact fun same => different same.symm

/-- Replacing a row that is present makes the new row the answer for its key. -/
theorem lookup_replace_self {table : Table key} {row old : ρ}
    (found : table.lookup (key row) = some old) :
    (table.replace row).lookup (key row) = some row := by
  rw [lookup_replace, if_pos rfl, found, Option.map_some]

theorem lookup_replace_ne (table : Table key) (row : ρ) {wanted : κ} (different : key row ≠ wanted) :
    (table.replace row).lookup wanted = table.lookup wanted := by
  rw [lookup_replace, if_neg different]

/-! ## Writing regardless of presence -/

/-- Replace the row with this key, or add the row. -/
def put (table : Table key) (row : ρ) : Table key :=
  if fresh : table.lookup (key row) = none then table.insert row fresh else table.replace row

theorem put_of_found {table : Table key} {row old : ρ}
    (found : table.lookup (key row) = some old) : table.put row = table.replace row := by
  unfold put
  rw [dif_neg]
  rw [found]
  exact Option.some_ne_none _

theorem lookup_put (table : Table key) (row : ρ) (wanted : κ) :
    (table.put row).lookup wanted = if key row = wanted then some row else table.lookup wanted := by
  unfold put
  split
  · exact lookup_insert wanted
  · rename_i taken
    rw [lookup_replace]
    split
    · rename_i same
      subst same
      obtain ⟨old, found⟩ := Option.ne_none_iff_exists'.mp taken
      rw [found, Option.map_some]
    · rfl

end Keyed

end Table
