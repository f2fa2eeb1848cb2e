import ServiceContract.Keyed
import ServiceContract.NameSet

/-!
# Tables by their keys and values

A table is determined by the order of its keys and by the value under each of them. Both are known
for a table that was made by inserting entries one after the other: the keys stand where they came
first, and each has the value that came last.

Main results:

* `Keyed.ext_get?`           — tables with the same keys and values are equal.
* `Keyed.keys_ofList`        — the keys of inserted entries, each at its first place.
* `Keyed.get?_ofList`        — the value under a key is the last that was inserted;
  `Keyed.get?_ofList_eq_some` says so by the place of its entry.
* `Keyed.entries_ofList`     — entries with distinct keys are the table's entries.
* `Keyed.ofList_overwritten` — a value that is overwritten leaves nothing but its key's place.
* `NameList.lists_ofList`    — inserted names stand in the order of their first places.
* `mem_mergeBy`, `mergeBy_map` — what a merge by name leaves, and that it looks at names alone.
* `map_name_mergeBy`         — the names of a merge, each at its first place.
-/

namespace ServiceContract

variable {α : Type}

/-! ## Entries -/

/-- A key that is there keeps its place, and a new one goes to the end. -/
theorem keys_putEntry (key : String) (value : α) (entries : List (String × α)) :
    (putEntry key value entries).map (·.1) =
      if key ∈ entries.map (·.1) then entries.map (·.1) else entries.map (·.1) ++ [key] := by
  induction entries with
  | nil => simp [putEntry]
  | cons entry rest ih =>
    by_cases h : entry.1 = key
    · simp [putEntry, h]
    · have hne : key ≠ entry.1 := Ne.symm h
      rw [putEntry, if_neg h, List.map_cons, ih, List.map_cons]
      by_cases hmem : key ∈ rest.map (·.1)
      · rw [if_pos hmem, if_pos (List.mem_cons_of_mem _ hmem)]
      · rw [if_neg hmem, if_neg (by simp [hne, hmem])]
        rfl

section Lookup

variable {κ : Type} [BEq κ] [LawfulBEq κ]

/-- The first entry with a key is the one that is found. -/
theorem lookup_cons_ite [DecidableEq κ] (key k : κ) (value : α) (rest : List (κ × α)) :
    ((k, value) :: rest).lookup key = if key = k then some value else rest.lookup key := by
  by_cases h : key = k
  · rw [if_pos h, h, List.lookup_cons_self]
  · have hbeq : (key == k) = false := beq_eq_false_iff_ne.mpr h
    rw [if_neg h, List.lookup_cons, hbeq]

theorem lookup_eq_none_of_not_mem {key : κ} {entries : List (κ × α)}
    (h : key ∉ entries.map (·.1)) : entries.lookup key = none := by
  rw [List.lookup_eq_none_iff]
  intro e he
  refine bne_iff_ne.mpr fun heq => h ?_
  rw [heq]
  exact List.mem_map.mpr ⟨e, he, rfl⟩

/-- Among distinct keys a look-up finds exactly the entries there are. -/
theorem mem_iff_lookup [DecidableEq κ] {entries : List (κ × α)}
    (h : (entries.map (·.1)).Nodup) {key : κ} {value : α} :
    (key, value) ∈ entries ↔ entries.lookup key = some value := by
  induction entries with
  | nil => simp
  | cons entry rest ih =>
    obtain ⟨k, v⟩ := entry
    rw [List.map_cons, List.nodup_cons] at h
    obtain ⟨hnew, hrest⟩ := h
    rw [lookup_cons_ite, List.mem_cons, Prod.mk.injEq, ih hrest]
    by_cases hk : key = k
    · -- the first entry has the key, so no later one has
      have hnone : rest.lookup key = none := lookup_eq_none_of_not_mem (hk ▸ hnew)
      rw [if_pos hk, hnone]
      simp [hk, eq_comm]
    · rw [if_neg hk]
      simp [hk]

end Lookup

/-- What was put is found under its key, and all other keys are as they were. -/
theorem lookup_putEntry (key k : String) (value : α) (entries : List (String × α)) :
    (putEntry key value entries).lookup k =
      if k = key then some value else entries.lookup k := by
  induction entries with
  | nil => rw [putEntry, lookup_cons_ite]
  | cons entry rest ih =>
    obtain ⟨key', value'⟩ := entry
    -- an entry of the key is replaced in its place; past any other the rest is gone on with
    by_cases he : key' = key
    · rw [putEntry, if_pos he, lookup_cons_ite, lookup_cons_ite, he]
      by_cases h : k = key
      · rw [if_pos h, if_pos h]
      · rw [if_neg h, if_neg h, if_neg h]
    · rw [putEntry, if_neg he, lookup_cons_ite, lookup_cons_ite, ih]
      by_cases hk : k = key'
      · rw [if_pos hk, if_neg (hk ▸ he), if_pos hk]
      · rw [if_neg hk, if_neg hk]

/-- Lists of entries with the same distinct keys and the same values under them are equal. -/
theorem eq_of_lookup {l m : List (String × α)} (hnodup : (l.map (·.1)).Nodup)
    (hkeys : l.map (·.1) = m.map (·.1)) (hlookup : ∀ k ∈ l.map (·.1), l.lookup k = m.lookup k) :
    l = m := by
  induction l generalizing m with
  | nil =>
    have hm : m = [] := List.map_eq_nil_iff.mp hkeys.symm
    rw [hm]
  | cons x rest ih =>
    cases m with
    | nil => simp at hkeys
    | cons y rest' =>
      obtain ⟨k, v⟩ := x
      obtain ⟨k', v'⟩ := y
      rw [List.map_cons, List.map_cons, List.cons.injEq] at hkeys
      obtain ⟨hhead, htail⟩ := hkeys
      simp only at hhead
      subst hhead
      rw [List.map_cons, List.nodup_cons] at hnodup
      obtain ⟨hnew, hrest⟩ := hnodup
      -- the first key is found at once, and the others behind it, since they differ from it
      have hvalue : v = v' := by
        have hk := hlookup k (List.mem_cons_self ..)
        rw [List.lookup_cons_self, List.lookup_cons_self] at hk
        exact Option.some.inj hk
      have hsame : rest = rest' := by
        refine ih hrest htail fun k₁ hk₁ => ?_
        have hne : k₁ ≠ k := fun heq => hnew (heq ▸ hk₁)
        have hk := hlookup k₁ (List.mem_cons_of_mem _ hk₁)
        rw [lookup_cons_ite, lookup_cons_ite, if_neg hne, if_neg hne] at hk
        exact hk
      rw [hvalue, hsame]

/-- A look-up finds the first entry with the key. -/
theorem exists_split_of_lookup {key : String} {v : α} {entries : List (String × α)}
    (h : entries.lookup key = some v) :
    ∃ before after, entries = before ++ (key, v) :: after ∧ key ∉ before.map (·.1) := by
  obtain ⟨before, after, hsplit, hnew⟩ := List.lookup_eq_some_iff.mp h
  refine ⟨before, after, hsplit, fun hmem => ?_⟩
  obtain ⟨e, he, heq⟩ := List.mem_map.mp hmem
  exact bne_iff_ne.mp (hnew e he) heq.symm

/-- Putting a value under a key that is there replaces the value at its place. -/
theorem putEntry_of_split {key : String} {v w : α} {before after : List (String × α)}
    (h : key ∉ before.map (·.1)) :
    putEntry key w (before ++ (key, v) :: after) = before ++ (key, w) :: after := by
  induction before with
  | nil => exact if_pos rfl
  | cons entry rest ih =>
    rw [List.map_cons, List.mem_cons, not_or] at h
    obtain ⟨hne, hrest⟩ := h
    rw [List.cons_append, putEntry, if_neg (Ne.symm hne), ih hrest, List.cons_append]

/-- Putting a value under a new key appends it. -/
theorem putEntry_of_new {key : String} {value : α} {entries : List (String × α)}
    (h : key ∉ entries.map (·.1)) : putEntry key value entries = entries ++ [(key, value)] := by
  induction entries with
  | nil => rfl
  | cons entry rest ih =>
    rw [List.map_cons, List.mem_cons, not_or] at h
    obtain ⟨hne, hrest⟩ := h
    rw [putEntry, if_neg (Ne.symm hne), ih hrest, List.cons_append]

/-- A function that tells a value from the one in its place by nothing gives the same results. -/
theorem map_putEntry {β : Type} {f : String × α → β} {key : String} {v w : α}
    {entries : List (String × α)} (hv : entries.lookup key = some v)
    (h : f (key, w) = f (key, v)) : (putEntry key w entries).map f = entries.map f := by
  obtain ⟨before, after, rfl, hbefore⟩ := exists_split_of_lookup hv
  rw [putEntry_of_split hbefore, List.map_append, List.map_append, List.map_cons, List.map_cons, h]

/-- Under a key that only one entry has, an entry that is replaced or dropped is found as such. -/
theorem lookup_filterMap {β : Type} {f : String × α → Option (String × β)}
    (hkey : ∀ e e', f e = some e' → e'.1 = e.1) {entries : List (String × α)}
    (hnodup : (entries.map (·.1)).Nodup) (key : String) :
    (entries.filterMap f).lookup key =
      (entries.lookup key).bind fun value => (f (key, value)).map (·.2) := by
  induction entries with
  | nil => rfl
  | cons entry rest ih =>
    obtain ⟨k, v⟩ := entry
    rw [List.map_cons, List.nodup_cons] at hnodup
    obtain ⟨hnew, hrest⟩ := hnodup
    rw [lookup_cons_ite, List.filterMap_cons]
    by_cases hk : key = k
    · -- if the entry is dropped, no later one has the key
      subst hk
      have hnone : rest.lookup key = none := lookup_eq_none_of_not_mem hnew
      rw [if_pos rfl, Option.bind_some]
      cases hf : f (key, v) with
      | none => rw [ih hrest, hnone, Option.bind_none, Option.map_none]
      | some e =>
        have he : e.1 = key := hkey _ _ hf
        rw [show e = (e.1, e.2) from rfl, lookup_cons_ite, if_pos he.symm, Option.map_some]
    · rw [if_neg hk, ← ih hrest]
      cases hf : f (k, v) with
      | none => rfl
      | some e =>
        have he : e.1 = k := hkey _ _ hf
        rw [show e = (e.1, e.2) from rfl, lookup_cons_ite, if_neg (he ▸ hk)]

/-- What is made of some of the items keeps their order: by a key that is taken over from the item it
is made of, the results come in the order of the items. -/
theorem map_filterMap_sublist {β γ : Type} {f : α → Option β} {name : β → γ} {key : α → γ}
    {items : List α} (h : ∀ a ∈ items, ∀ b, f a = some b → name b = key a) :
    ((items.filterMap f).map name).Sublist (items.map key) := by
  induction items with
  | nil => exact List.Sublist.slnil
  | cons item rest ih =>
    have hrest := ih fun a ha => h a (List.mem_cons_of_mem item ha)
    cases hf : f item with
    | none =>
      rw [List.filterMap_cons_none hf, List.map_cons]
      exact hrest.cons _
    | some b =>
      rw [List.filterMap_cons_some hf, List.map_cons, List.map_cons,
        h item (List.mem_cons_self ..) b hf]
      exact hrest.cons_cons _

/-- Replacing and dropping entries keeps their keys distinct. -/
theorem nodup_keys_filterMap {β : Type} {f : String × α → Option (String × β)}
    (hkey : ∀ e e', f e = some e' → e'.1 = e.1) {entries : List (String × α)}
    (hnodup : (entries.map (·.1)).Nodup) : ((entries.filterMap f).map (·.1)).Nodup :=
  (map_filterMap_sublist fun e _ e' h => hkey e e' h).nodup hnodup

/-! ## Names in order of insertion -/

/-- The names are those of `all`, each once, in the order in which they come there first. -/
structure NameList.Lists (l : NameList) (all : List String) : Prop where
  mem : ∀ n, n ∈ l.names ↔ n ∈ all
  ordered : l.names.Pairwise fun a b => all.idxOf a < all.idxOf b

/-- A name that follows all others takes the last place, unless it had one before. -/
theorem NameList.Lists.insert {l : NameList} {all : List String} (h : l.Lists all)
    (name : String) : (l.insert name).Lists (all ++ [name]) := by
  -- what stands in `all` keeps its first place there
  have hkept : l.names.Pairwise fun a b => (all ++ [name]).idxOf a < (all ++ [name]).idxOf b := by
    refine h.ordered.imp_of_mem fun {a b} ha hb hlt => ?_
    rw [List.idxOf_append, List.idxOf_append, if_pos ((h.mem a).mp ha), if_pos ((h.mem b).mp hb)]
    exact hlt
  constructor
  · intro n
    rw [NameList.mem_insert, h.mem, List.mem_append, List.mem_singleton]
  · rw [NameList.names_insert]
    split
    · exact hkept
    · next hnew =>
      refine List.pairwise_append.mpr ⟨hkept, List.pairwise_singleton _ _, ?_⟩
      intro a ha b hb
      have hplace : all.idxOf a < all.length := List.idxOf_lt_length_iff.mpr ((h.mem a).mp ha)
      have hname : name ∉ all := fun hmem => hnew ((h.mem name).mpr hmem)
      rw [List.mem_singleton.mp hb, List.idxOf_append, List.idxOf_append, if_pos ((h.mem a).mp ha),
        if_neg hname]
      omega

/-- Names are listed in the order in which they came first, however often they come. -/
theorem NameList.Lists.insertAll {l : NameList} {all : List String} (h : l.Lists all)
    (names : List String) : (l.insertAll names).Lists (all ++ names) := by
  induction names generalizing l all with
  | nil => simpa [NameList.insertAll] using h
  | cons name rest ih =>
    have hstep : (l.insertAll (name :: rest)) = (l.insert name).insertAll rest := rfl
    rw [hstep, List.append_cons]
    exact ih (h.insert name)

/-- The names of a list, in the order of their first places. -/
theorem NameList.lists_ofList (names : List String) : (NameList.ofList names).Lists names :=
  NameList.Lists.insertAll ⟨fun _ => Iff.rfl, List.Pairwise.nil⟩ names

/-- A list of names lists itself. -/
theorem NameList.lists_self (l : NameList) : l.Lists l.names := by
  refine ⟨fun _ => Iff.rfl, ?_⟩
  rw [List.pairwise_iff_getElem]
  intro i j hi hj hlt
  rw [l.nodup.idxOf_getElem i hi, l.nodup.idxOf_getElem j hj]
  exact hlt

namespace Keyed

/-! ## Tables -/

theorem keys_insert (t : Keyed α) (key : String) (value : α) :
    (t.insert key value).keys = if key ∈ t.keys then t.keys else t.keys ++ [key] :=
  keys_putEntry key value t.entries

theorem get?_insert (t : Keyed α) (key k : String) (value : α) :
    (t.insert key value).get? k = if k = key then some value else t.get? k :=
  lookup_putEntry key k value t.entries

/-- The keys of a table are distinct, so an entry is in it exactly if it is found under its key. -/
theorem mem_entries_iff {t : Keyed α} {key : String} {value : α} :
    (key, value) ∈ t.entries ↔ t.get? key = some value :=
  mem_iff_lookup t.nodup

/-- A look-up does not depend on the order of the entries. -/
theorem get?_of_perm {s t : Keyed α} (h : s.entries.Perm t.entries) (key : String) :
    s.get? key = t.get? key := by
  refine Option.ext fun value => ?_
  rw [← mem_entries_iff, ← mem_entries_iff, h.mem_iff]

/-- Tables with the same keys in the same order and the same values under them are equal. -/
theorem ext_get? {s t : Keyed α} (hkeys : s.keys = t.keys)
    (hget : ∀ k, s.get? k = t.get? k) : s = t :=
  Keyed.ext (eq_of_lookup s.nodup hkeys fun k _ => hget k)

/-- The keys of inserted entries, each at its first place. -/
theorem keys_ofList (entries : List (String × α)) :
    (ofList entries).keys = (NameList.ofList (entries.map (·.1))).names := by
  -- a table and a list of names that start alike stay alike
  have hrun : ∀ (t : Keyed α) (l : NameList), t.keys = l.names →
      (entries.foldl (fun t entry => t.insert entry.1 entry.2) t).keys =
        (l.insertAll (entries.map (·.1))).names := by
    induction entries with
    | nil => exact fun _ _ h => h
    | cons entry rest ih =>
      intro t l h
      refine ih (t.insert entry.1 entry.2) (l.insert entry.1) ?_
      rw [keys_insert, NameList.names_insert, h]
  exact hrun empty NameList.empty rfl

/-- The value under a key is the last that was inserted under it. -/
theorem get?_ofList (entries : List (String × α)) (key : String) :
    (ofList entries).get? key = entries.reverse.lookup key := by
  -- what is inserted hides what was in the table
  have hrun : ∀ t : Keyed α,
      (entries.foldl (fun t entry => t.insert entry.1 entry.2) t).get? key =
        (entries.reverse.lookup key).or (t.get? key) := by
    induction entries with
    | nil => exact fun _ => rfl
    | cons entry rest ih =>
      intro t
      rw [List.foldl_cons, ih, get?_insert, List.reverse_cons, List.lookup_append,
        Option.or_assoc, lookup_cons_ite, List.lookup_nil]
      by_cases h : key = entry.1
      · rw [if_pos h, if_pos h, Option.some_or]
      · rw [if_neg h, if_neg h, Option.none_or]
  have hempty : (empty : Keyed α).get? key = none := rfl
  rw [ofList, hrun, hempty, Option.or_none]

/-- A value is under a key exactly if it was inserted under it and none was after it. -/
theorem get?_ofList_eq_some {entries : List (String × α)} {key : String} {value : α} :
    (ofList entries).get? key = some value ↔
      ∃ before after, entries = before ++ (key, value) :: after ∧ key ∉ after.map (·.1) := by
  rw [get?_ofList]
  constructor
  · intro h
    obtain ⟨later, earlier, hsplit, hnew⟩ := exists_split_of_lookup h
    refine ⟨earlier.reverse, later.reverse, ?_, ?_⟩
    · rw [← List.reverse_reverse entries, hsplit]
      simp
    · rw [List.map_reverse, List.mem_reverse]
      exact hnew
  · rintro ⟨before, after, rfl, hnew⟩
    -- what comes after has other keys, so the look-up passes it
    have hnone : after.reverse.lookup key = none := by
      refine lookup_eq_none_of_not_mem ?_
      rw [List.map_reverse, List.mem_reverse]
      exact hnew
    rw [List.reverse_append, List.reverse_cons, List.lookup_append, List.lookup_append, hnone,
      Option.none_or, List.lookup_cons_self, Option.some_or]

/-- Inserting entries with distinct keys gives a table of these entries. -/
theorem mem_entries_ofList {entries : List (String × α)} (h : (entries.map (·.1)).Nodup)
    {key : String} {value : α} :
    (key, value) ∈ (ofList entries).entries ↔ (key, value) ∈ entries := by
  have hreverse : (entries.reverse.map (·.1)).Nodup := by
    rw [List.map_reverse]
    exact List.pairwise_reverse.mpr (h.imp Ne.symm)
  rw [mem_entries_iff, get?_ofList, ← mem_iff_lookup hreverse, List.mem_reverse]

/-- What stands in a table was inserted. -/
theorem mem_of_mem_ofList {entries : List (String × α)} {entry : String × α}
    (h : entry ∈ (ofList entries).entries) : entry ∈ entries := by
  have hlookup : entries.reverse.lookup entry.1 = some entry.2 := by
    rw [← get?_ofList]
    exact mem_entries_iff.mp h
  obtain ⟨before, after, hsplit, -⟩ := exists_split_of_lookup hlookup
  rw [← List.mem_reverse, hsplit]
  exact List.mem_append_right before (List.mem_cons_self ..)

/-- Inserting entries with distinct keys gives these entries in their order. -/
theorem entries_ofList {entries : List (String × α)} (h : (entries.map (·.1)).Nodup) :
    (ofList entries).entries = entries := by
  -- entries with new keys go to the end
  have hrun : ∀ t : Keyed α, ((t.entries ++ entries).map (·.1)).Nodup →
      (entries.foldl (fun t entry => t.insert entry.1 entry.2) t).entries =
        t.entries ++ entries := by
    clear h
    induction entries with
    | nil => exact fun t _ => (List.append_nil _).symm
    | cons entry rest ih =>
      intro t hnodup
      have hnew : entry.1 ∉ t.entries.map (·.1) := by
        rw [List.map_append, List.nodup_append] at hnodup
        exact fun hmem => hnodup.2.2 _ hmem _ (List.mem_cons_self ..) rfl
      have hinsert : (t.insert entry.1 entry.2).entries = t.entries ++ [entry] :=
        putEntry_of_new hnew
      rw [List.foldl_cons, ih, hinsert, List.append_assoc, List.singleton_append]
      rw [hinsert, List.append_assoc, List.singleton_append]
      exact hnodup
  exact hrun empty (by simpa using h)

/-- A value that is overwritten later leaves nothing but the place of its key. -/
theorem ofList_overwritten {front back : List (String × α)} {key : String} (v w : α)
    (h : key ∈ back.map (·.1)) :
    ofList (front ++ (key, v) :: back) = ofList (front ++ (key, w) :: back) := by
  refine ext_get? ?_ fun k => ?_
  · rw [keys_ofList, keys_ofList, List.map_append, List.map_append, List.map_cons, List.map_cons]
  · rw [get?_ofList, get?_ofList, List.reverse_append, List.reverse_append, List.reverse_cons,
      List.reverse_cons, List.lookup_append, List.lookup_append, List.lookup_append,
      List.lookup_append, lookup_cons_ite, lookup_cons_ite]
    by_cases hk : k = key
    · -- the later entry is found before either of the two
      have hlater : (back.reverse.lookup k).isSome := by
        obtain ⟨e, he, heq⟩ := List.mem_map.mp h
        rw [List.lookup_isSome_iff]
        exact ⟨e, List.mem_reverse.mpr he, beq_iff_eq.mpr (hk.trans heq.symm)⟩
      obtain ⟨later, hlookup⟩ := Option.isSome_iff_exists.mp hlater
      simp only [hlookup, Option.some_or]
    · rw [if_neg hk, if_neg hk]

/-- Values that are replaced by others all alike leave the table as it was, but for its values. -/
theorem entries_ofList_map {β : Type} (f : α → β) (entries : List (String × α)) :
    (ofList (entries.map fun e => (e.1, f e.2))).entries =
      (ofList entries).entries.map fun e => (e.1, f e.2) := by
  have hput : ∀ (key : String) (value : α) (l : List (String × α)),
      putEntry key (f value) (l.map fun e => (e.1, f e.2)) =
        (putEntry key value l).map fun e => (e.1, f e.2) := by
    intro key value l
    induction l with
    | nil => rfl
    | cons entry rest ih =>
      by_cases h : entry.1 = key
      · simp [putEntry, h]
      · simp [putEntry, h, ih]
  -- tables that differ in this way still do after an insertion into both
  have hrun : ∀ (t : Keyed α) (u : Keyed β), u.entries = t.entries.map (fun e => (e.1, f e.2)) →
      ((entries.map fun e => (e.1, f e.2)).foldl (fun u e => u.insert e.1 e.2) u).entries =
        (entries.foldl (fun t e => t.insert e.1 e.2) t).entries.map fun e => (e.1, f e.2) := by
    induction entries with
    | nil => exact fun t u h => h
    | cons entry rest ih =>
      intro t u h
      refine ih (t.insert entry.1 entry.2) (u.insert entry.1 (f entry.2)) ?_
      rw [entries_insert, entries_insert, h, hput]
  exact hrun empty empty rfl

end Keyed

/-! ## Items merged by name -/

/-- The items merged by their names: of those with one name the last is left, in the place of the
first. -/
def mergeBy (name : α → String) (items : List α) : List α :=
  (Keyed.ofList (items.map fun item => (name item, item))).values

/-- The table that a merge goes through has each item under its name. -/
theorem eq_of_mem_merged {name : α → String} {items : List α} {named : String × α}
    (h : named ∈ (Keyed.ofList (items.map fun item => (name item, item))).entries) :
    named = (name named.2, named.2) := by
  obtain ⟨item, -, rfl⟩ := List.mem_map.mp (Keyed.mem_of_mem_ofList h)
  rfl

/-- The names of a merge are the table's keys: each stands where it came first. -/
theorem map_name_mergeBy {name : α → String} {items : List α} :
    (mergeBy name items).map name = (NameList.ofList (items.map name)).names := by
  have hkeys : (mergeBy name items).map name =
      (Keyed.ofList (items.map fun item => (name item, item))).keys := by
    rw [mergeBy, Keyed.values, Keyed.keys, List.map_map]
    refine List.map_congr_left fun named hnamed => ?_
    rw [eq_of_mem_merged hnamed, Function.comp_apply]
  rw [hkeys, Keyed.keys_ofList, List.map_map]
  rfl

/-- Of the items with one name the last is left. -/
theorem mem_mergeBy {name : α → String} {items : List α} {x : α} :
    x ∈ mergeBy name items ↔
      ∃ before after, items = before ++ x :: after ∧ ∀ later ∈ after, name later ≠ name x := by
  -- what is merged is what a table holds under its name
  have htable : x ∈ mergeBy name items ↔
      (Keyed.ofList (items.map fun item => (name item, item))).get? (name x) = some x := by
    rw [← Keyed.mem_entries_iff, mergeBy, Keyed.values, List.mem_map]
    constructor
    · rintro ⟨named, hnamed, rfl⟩
      rw [← eq_of_mem_merged hnamed]
      exact hnamed
    · intro h
      exact ⟨_, h, rfl⟩
  rw [htable, Keyed.get?_ofList_eq_some]
  constructor
  · -- the split of the named list is one of the list itself
    rintro ⟨before, after, hsplit, hnew⟩
    obtain ⟨front, back, hitems, -, hback⟩ := List.map_eq_append_iff.mp hsplit
    obtain ⟨y, rest, rfl, hy, rfl⟩ := List.map_eq_cons_iff.mp hback
    obtain ⟨-, rfl⟩ := Prod.mk.inj hy
    refine ⟨front, rest, hitems, ?_⟩
    intro later hlater hname
    exact hnew (List.mem_map.mpr ⟨_, List.mem_map_of_mem hlater, hname⟩)
  · rintro ⟨before, after, rfl, hlast⟩
    refine ⟨_, _, by rw [List.map_append, List.map_cons], ?_⟩
    intro hmem
    rw [List.map_map, List.mem_map] at hmem
    obtain ⟨later, hlater, hname⟩ := hmem
    exact hlast later hlater hname

/-- A merge loses no name. -/
theorem exists_mem_mergeBy {name : α → String} {items : List α} {x : α} (h : x ∈ items) :
    ∃ winner ∈ mergeBy name items, name winner = name x := by
  have hname : name x ∈ (mergeBy name items).map name := by
    rw [map_name_mergeBy, (NameList.lists_ofList _).mem]
    exact List.mem_map_of_mem h
  exact List.mem_map.mp hname

/-- A merge looks at names alone: items that keep theirs are merged in the same way. -/
theorem mergeBy_map {β : Type} {name : α → String} {name' : β → String} {f : α → β}
    {items : List α} (h : ∀ x ∈ items, name' (f x) = name x) :
    mergeBy name' (items.map f) = (mergeBy name items).map f := by
  have hnamed : (items.map f).map (fun y => (name' y, y)) =
      (items.map fun x => (name x, x)).map fun e => (e.1, f e.2) := by
    rw [List.map_map, List.map_map]
    exact List.map_congr_left fun x hx => by rw [Function.comp_apply, Function.comp_apply, h x hx]
  rw [mergeBy, mergeBy, hnamed, Keyed.values, Keyed.entries_ofList_map, Keyed.values, List.map_map,
    List.map_map]
  rfl

end ServiceContract
