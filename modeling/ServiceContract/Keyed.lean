/-!
# Entries by key, in order of insertion

`Keyed α` is a table from names to `α` that remembers the order in which its keys came. Inserting
under a key that is there already replaces the value and keeps the place. Its keys are distinct:
that is part of the type.

## Results

* `mem_keys_putEntry` — inserting adds the key and loses none.
* `nodup_putEntry`    — inserting keeps the keys distinct.
-/

namespace ServiceContract

/-- Puts `value` under `key`: in the place of the entry with that key, else at the end. -/
def putEntry {α : Type} (key : String) (value : α) : List (String × α) → List (String × α)
  | [] => [(key, value)]
  | entry :: rest =>
    if entry.1 = key then (key, value) :: rest else entry :: putEntry key value rest

/-- Inserting adds the key and loses none. -/
theorem mem_keys_putEntry {α : Type} {key k : String} {value : α} {entries : List (String × α)} :
    k ∈ (putEntry key value entries).map (·.1) ↔ k = key ∨ k ∈ entries.map (·.1) := by
  induction entries with
  | nil => simp [putEntry]
  | cons entry rest ih =>
    by_cases h : entry.1 = key
    · simp [putEntry, h]
    · simp only [putEntry, h, if_false, List.map_cons, List.mem_cons, ih]
      constructor
      · rintro (h | h | h) <;> simp [h]
      · rintro (h | h | h) <;> simp [h]

/-- Inserting keeps the keys distinct. -/
theorem nodup_putEntry {α : Type} {key : String} {value : α} {entries : List (String × α)}
    (h : (entries.map (·.1)).Nodup) : ((putEntry key value entries).map (·.1)).Nodup := by
  induction entries with
  | nil => simp [putEntry]
  | cons entry rest ih =>
    simp only [List.map_cons, List.nodup_cons] at h
    by_cases hk : entry.1 = key
    · simp only [putEntry, hk, if_true, List.map_cons, List.nodup_cons]
      exact ⟨hk ▸ h.1, h.2⟩
    · rw [putEntry, if_neg hk, List.map_cons, List.nodup_cons, mem_keys_putEntry]
      exact ⟨not_or.2 ⟨hk, h.1⟩, ih h.2⟩

/-- A table of entries with distinct keys, in order of first insertion. -/
structure Keyed (α : Type) where
  entries : List (String × α)
  nodup : (entries.map (·.1)).Nodup := by simp

namespace Keyed

variable {α β : Type}

/-- The table without entries. -/
def empty : Keyed α := ⟨[], by simp⟩

instance : Inhabited (Keyed α) := ⟨empty⟩

/-- The keys in order. -/
def keys (t : Keyed α) : List String := t.entries.map (·.1)

/-- The values in order. -/
def values (t : Keyed α) : List α := t.entries.map (·.2)

/-- The number of entries. -/
def size (t : Keyed α) : Nat := t.entries.length

/-- The value under `key`. -/
def get? (t : Keyed α) (key : String) : Option α := t.entries.lookup key

/-- Whether `key` has a value. -/
def contains (t : Keyed α) (key : String) : Bool := t.entries.any (·.1 == key)

/-- Puts `value` under `key`, in the place of a former value if there is one. -/
def insert (t : Keyed α) (key : String) (value : α) : Keyed α :=
  ⟨putEntry key value t.entries, nodup_putEntry t.nodup⟩

/-- Inserts the entries one after the other. -/
def ofList (entries : List (String × α)) : Keyed α :=
  entries.foldl (fun t entry => t.insert entry.1 entry.2) empty

@[ext] theorem ext {s t : Keyed α} (h : s.entries = t.entries) : s = t := by
  cases s; cases t; cases h; rfl

@[simp] theorem entries_empty : (empty : Keyed α).entries = [] := rfl

@[simp] theorem entries_insert (t : Keyed α) (key : String) (value : α) :
    (t.insert key value).entries = putEntry key value t.entries := rfl

/-- The keys of a table are distinct. -/
theorem keys_nodup (t : Keyed α) : t.keys.Nodup := t.nodup

end Keyed

end ServiceContract
