/-!
# Sets of names

Two kinds of set, told apart by the order in which they list their names: `NameList` keeps the order
of insertion, `ImportSet` is sorted. Both hold each name once, and their types say so.

## Results

* `NameList.mem_insertAll`  — a list holds what was in it and what was inserted.
* `NameList.names_ofList`   — a list of names keeps the first occurrence of each.
* `pairwise_placeName`      — placing a name keeps a list ascending.
* `ImportSet.ext_mem`       — a sorted set is determined by its names.
* `ImportSet.mem_insertAll` — a set holds what was in it and what was inserted.
* `ImportSet.mem_union`     — a union holds the names of both sets.
-/

namespace ServiceContract

/-! ## In order of insertion -/

/-- Names without repetition, in the order in which they were first inserted. -/
structure NameList where
  names : List String
  nodup : names.Nodup := by simp

namespace NameList

/-- The list without names. -/
def empty : NameList := ⟨[], by simp⟩

instance : Inhabited NameList := ⟨empty⟩

@[ext] theorem ext {a b : NameList} (h : a.names = b.names) : a = b := by
  cases a; cases b; cases h; rfl

/-- Appends `name` unless it is there already. -/
def insert (l : NameList) (name : String) : NameList :=
  if h : name ∈ l.names then l
  else ⟨l.names ++ [name], by
    refine List.nodup_append.2 ⟨l.nodup, by simp, ?_⟩
    rintro a ha b hb rfl
    exact h (by simpa [List.mem_singleton.1 hb] using ha)⟩

/-- Inserts names one after the other. -/
def insertAll (l : NameList) (names : List String) : NameList := names.foldl insert l

/-- The names of a list, each at the place of its first occurrence. -/
def ofList (names : List String) : NameList := empty.insertAll names

/-- Whether `name` is in the list. -/
def contains (l : NameList) (name : String) : Bool := l.names.contains name

/-- Whether there is no name. -/
def isEmpty (l : NameList) : Bool := l.names.isEmpty

@[simp] theorem names_empty : empty.names = [] := rfl

/-- A new name goes to the end, a known one changes nothing. -/
theorem names_insert (l : NameList) (name : String) :
    (l.insert name).names = if name ∈ l.names then l.names else l.names ++ [name] := by
  unfold insert
  split <;> rfl

/-- What is inserted is there, and so is what was there before. -/
theorem mem_insert {l : NameList} {name n : String} :
    n ∈ (l.insert name).names ↔ n ∈ l.names ∨ n = name := by
  rw [names_insert]
  split
  · next h => exact ⟨Or.inl, fun hn => hn.elim id (fun e => e ▸ h)⟩
  · simp

/-- A list holds what was in it and what was inserted. -/
theorem mem_insertAll {names : List String} {l : NameList} {n : String} :
    n ∈ (l.insertAll names).names ↔ n ∈ l.names ∨ n ∈ names := by
  induction names generalizing l with
  | nil => simp [insertAll]
  | cons name rest ih =>
    have : l.insertAll (name :: rest) = (l.insert name).insertAll rest := rfl
    rw [this, ih, mem_insert, List.mem_cons, or_assoc]

/-- What is inserted goes through the names there are without its repetitions. -/
theorem names_insertAll {names all : List String} {l : NameList} (h : l.names = all.eraseDups) :
    (l.insertAll names).names = (all ++ names).eraseDups := by
  induction names generalizing l all with
  | nil => rwa [List.append_nil]
  | cons name rest ih =>
    have hstep : l.insertAll (name :: rest) = (l.insert name).insertAll rest := rfl
    -- a name that is there already is dropped on both sides
    have hname : (l.insert name).names = (all ++ [name]).eraseDups := by
      rw [names_insert, h, List.eraseDups_append]
      by_cases hmem : name ∈ all.eraseDups
      · rw [if_pos hmem]
        simp [List.removeAll, List.mem_eraseDups.mp hmem]
      · rw [if_neg hmem]
        simp [List.removeAll, mt List.mem_eraseDups.mpr hmem, List.eraseDups_cons]
    rw [hstep, List.append_cons]
    exact ih hname

/-- Of a list of names the first occurrences are left. -/
theorem names_ofList (names : List String) : (ofList names).names = names.eraseDups := by
  have hempty : empty.names = ([] : List String).eraseDups := List.eraseDups_nil.symm
  rw [ofList, names_insertAll hempty, List.nil_append]

end NameList

/-! ## Sorted -/

/-- Puts `name` into an ascending list, unless it is there already. -/
def placeName (name : String) : List String → List String
  | [] => [name]
  | n :: rest =>
    if name < n then name :: n :: rest
    else if name = n then n :: rest
    else n :: placeName name rest

/-- Placing adds the name and loses none. -/
theorem mem_placeName {name n : String} {names : List String} :
    n ∈ placeName name names ↔ n = name ∨ n ∈ names := by
  induction names with
  | nil => simp [placeName]
  | cons m rest ih =>
    unfold placeName
    split
    · simp
    · split
      · next h => subst h; simp
      · simp only [List.mem_cons, ih]
        constructor
        · rintro (h | h | h) <;> simp [h]
        · rintro (h | h | h) <;> simp [h]

/-- Placing a name keeps a list ascending. -/
theorem pairwise_placeName {name : String} {names : List String}
    (h : names.Pairwise (· < ·)) : (placeName name names).Pairwise (· < ·) := by
  induction names with
  | nil => simp [placeName]
  | cons m rest ih =>
    obtain ⟨hm, hrest⟩ := List.pairwise_cons.1 h
    unfold placeName
    split
    · -- the name goes in front, and is before all that follows
      next hlt =>
      refine List.pairwise_cons.2 ⟨fun a ha => ?_, h⟩
      rcases List.mem_cons.1 ha with rfl | ha
      · exact hlt
      · exact String.lt_trans hlt (hm a ha)
    · split
      · exact h
      · next hlt hne =>
        refine List.pairwise_cons.2 ⟨fun a ha => ?_, ih hrest⟩
        rcases mem_placeName.1 ha with rfl | ha
        · grind
        · exact hm a ha

/-- Names without repetition in ascending order of their characters, which is also the order of
their UTF-8 bytes. -/
structure ImportSet where
  names : List String
  sorted : names.Pairwise (· < ·) := by simp

namespace ImportSet

/-- The set without names. -/
def empty : ImportSet := ⟨[], by simp⟩

instance : Inhabited ImportSet := ⟨empty⟩

@[ext] theorem ext {a b : ImportSet} (h : a.names = b.names) : a = b := by
  cases a; cases b; cases h; rfl

/-- Sets with the same names are equal, since both list them in ascending order. -/
theorem ext_mem {a b : ImportSet} (h : ∀ n, n ∈ a.names ↔ n ∈ b.names) : a = b := by
  have hnodup : ∀ s : ImportSet, s.names.Nodup := by
    intro s
    refine s.sorted.imp ?_
    rintro m n hlt rfl
    exact String.lt_irrefl m hlt
  have hperm := (List.perm_ext_iff_of_nodup (hnodup a) (hnodup b)).mpr h
  refine ext (hperm.eq_of_pairwise ?_ a.sorted b.sorted)
  intro m n _ _ hlt hgt
  exact absurd (String.lt_trans hlt hgt) (String.lt_irrefl m)

/-- The set with `name` in it. -/
def insert (s : ImportSet) (name : String) : ImportSet :=
  ⟨placeName name s.names, pairwise_placeName s.sorted⟩

/-- The set with all of `names` in it. -/
def insertAll (s : ImportSet) (names : List String) : ImportSet := names.foldl insert s

/-- The set of the names in a list. -/
def ofList (names : List String) : ImportSet := empty.insertAll names

/-- The names of both sets. -/
def union (s t : ImportSet) : ImportSet := s.insertAll t.names

@[simp] theorem names_empty : empty.names = [] := rfl

/-- What is inserted is there, and so is what was there before. -/
theorem mem_insert {s : ImportSet} {name n : String} :
    n ∈ (s.insert name).names ↔ n = name ∨ n ∈ s.names := mem_placeName

/-- A set holds what was in it and what was inserted. -/
theorem mem_insertAll {names : List String} {s : ImportSet} {n : String} :
    n ∈ (s.insertAll names).names ↔ n ∈ s.names ∨ n ∈ names := by
  induction names generalizing s with
  | nil => simp [insertAll]
  | cons name rest ih =>
    have : s.insertAll (name :: rest) = (s.insert name).insertAll rest := rfl
    rw [this, ih, mem_insert, List.mem_cons]
    constructor
    · rintro ((h | h) | h) <;> simp [h]
    · rintro (h | h | h) <;> simp [h]

/-- The set of a list holds the names of the list. -/
theorem mem_ofList {names : List String} {n : String} : n ∈ (ofList names).names ↔ n ∈ names := by
  simp [ofList, mem_insertAll]

/-- A union holds the names of both sets. -/
theorem mem_union {s t : ImportSet} {n : String} :
    n ∈ (s.union t).names ↔ n ∈ s.names ∨ n ∈ t.names := mem_insertAll

/-- To unite a set with the names of a list is to insert them one by one, since sets with the same
names are equal. -/
theorem union_ofList (s : ImportSet) (names : List String) :
    s.union (ofList names) = s.insertAll names :=
  ext_mem fun n => by rw [mem_union, mem_ofList, mem_insertAll]

end ImportSet

end ServiceContract
