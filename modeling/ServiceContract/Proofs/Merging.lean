import Mathlib.Data.List.Sort
import ServiceContract.Proofs.ImportUse

/-!
# What a merge of parameters is

The parameters of an operation come from three scopes: its path, its authentication and its own
list. They are merged by name. A merge is known by three things: which names it has, in which order,
and which entry stands under each. `Merges` says so without a table, by places in the list of all
entries: a name stands where it came first, and its entry is the one that came last. No other list
has these properties, so they may serve as the definition of merging.

Main results:

* `Merges.unique`                   — entries are merged in one way only.
* `merges_mergeEntries`             — the table that entries are put into gives their merge.
* `lastIn_append`                   — of two scopes, the later one has the last word on a name.
* `collectParameters_merges_scopes` — the parameters of an operation are its three scopes merged.
-/

namespace ServiceContract

/-- The entries are merged by name: each name is left once, where it came first, with the entry that
came last. -/
structure Merges (entries merged : List ParameterEntry) : Prop where
  once : ∀ n, (merged.map ParameterEntry.name).count n =
    if n ∈ entries.map ParameterEntry.name then 1 else 0
  ordered : merged.Pairwise fun a b =>
    (entries.map ParameterEntry.name).idxOf a.name < (entries.map ParameterEntry.name).idxOf b.name
  last : ∀ e ∈ merged, e.LastIn entries

variable {entries merged : List ParameterEntry} {e : ParameterEntry}

/-- The last entry of a name is one of the entries. -/
theorem ParameterEntry.LastIn.mem (h : e.LastIn entries) : e ∈ entries := by
  obtain ⟨before, after, rfl, -⟩ := h
  exact List.mem_append_right before (List.mem_cons_self ..)

/-- Only one entry of a name is the last. -/
theorem ParameterEntry.LastIn.eq {other : ParameterEntry} (h : e.LastIn entries)
    (hother : other.LastIn entries) (hname : other.name = e.name) : other = e := by
  obtain ⟨before, after, rfl, hlast⟩ := h
  obtain ⟨front, back, hsplit, hback⟩ := hother
  -- the two splits of the list meet at one place, since neither name comes again
  rcases List.append_eq_append_iff.mp hsplit with ⟨mid, rfl, htail⟩ | ⟨mid, rfl, htail⟩
  · cases mid with
    | nil => exact (List.cons.inj htail).1.symm
    | cons x rest =>
      have hlater : other ∈ after := by
        rw [(List.cons.inj htail).2]
        exact List.mem_append_right rest (List.mem_cons_self ..)
      exact absurd hname (hlast other hlater)
  · cases mid with
    | nil => exact (List.cons.inj htail).1
    | cons x rest =>
      have hlater : e ∈ back := by
        rw [(List.cons.inj htail).2]
        exact List.mem_append_right rest (List.mem_cons_self ..)
      exact absurd hname.symm (hback e hlater)

/-! ## Merges -/

/-- Merged entries have distinct names. -/
theorem Merges.nodup (h : Merges entries merged) : (merged.map ParameterEntry.name).Nodup := by
  rw [List.nodup_iff_count]
  intro n
  rw [h.once n]
  split <;> omega

/-- A merge holds exactly the entries that no later one replaces. -/
theorem Merges.mem_iff (h : Merges entries merged) : e ∈ merged ↔ e.LastIn entries := by
  refine ⟨h.last e, fun hlast => ?_⟩
  have hname : e.name ∈ entries.map ParameterEntry.name := List.mem_map_of_mem hlast.mem
  have hcount : 0 < (merged.map ParameterEntry.name).count e.name := by
    rw [h.once, if_pos hname]
    omega
  obtain ⟨winner, hwinner, heq⟩ := List.mem_map.mp (List.count_pos_iff.mp hcount)
  rw [← hlast.eq (h.last winner hwinner) heq]
  exact hwinner

/-- Entries are merged in one way only. -/
theorem Merges.unique {other : List ParameterEntry} (h : Merges entries merged)
    (hother : Merges entries other) : other = merged := by
  -- both lists ascend in the places of their names
  refine hother.ordered.eq_of_mem_iff h.ordered fun e => ?_
  rw [h.mem_iff, hother.mem_iff]

/-- The table that entries are put into one after the other gives their merge. -/
theorem merges_mergeEntries (entries : List ParameterEntry) :
    Merges entries (mergeEntries entries) := by
  have hnames : (mergeEntries entries).map ParameterEntry.name =
      (NameList.ofList (entries.map ParameterEntry.name)).names := map_name_mergeBy
  have hlists : (NameList.ofList (entries.map ParameterEntry.name)).Lists
      (entries.map ParameterEntry.name) := NameList.lists_ofList _
  constructor
  · intro n
    rw [hnames, (NameList.nodup _).count]
    simp only [hlists.mem]
  · -- the names of the table are inserted in the order of the entries, the first one counting
    have hordered := hlists.ordered
    rw [← hnames, List.pairwise_map] at hordered
    exact hordered
  · intro e he
    exact mem_mergeEntries.mp he

/-! ## Scopes -/

/-- Of two scopes, the later one has the last word on a name. -/
theorem lastIn_append {earlier later : List ParameterEntry} :
    e.LastIn (earlier ++ later) ↔
      e.LastIn later ∨ e.name ∉ later.map ParameterEntry.name ∧ e.LastIn earlier := by
  constructor
  · rintro ⟨before, after, hsplit, hlast⟩
    rcases List.append_eq_append_iff.mp hsplit with ⟨mid, rfl, rfl⟩ | ⟨mid, rfl, htail⟩
    · exact Or.inl ⟨mid, after, rfl, hlast⟩
    · cases mid with
      | nil => exact Or.inl ⟨[], after, htail.symm, hlast⟩
      | cons x rest =>
        -- the entry stands in the earlier scope, and all of the later one comes after it
        obtain ⟨rfl, rfl⟩ := List.cons.inj htail
        refine Or.inr ⟨fun hmem => ?_, before, rest, rfl, ?_⟩
        · obtain ⟨winner, hwinner, hname⟩ := List.mem_map.mp hmem
          exact hlast winner (List.mem_append_right rest hwinner) hname
        · intro x hx
          exact hlast x (List.mem_append_left later hx)
  · rintro (⟨before, after, rfl, hlast⟩ | ⟨hnew, before, after, rfl, hlast⟩)
    · exact ⟨earlier ++ before, after, (List.append_assoc ..).symm, hlast⟩
    · refine ⟨before, after ++ later, by rw [List.append_assoc, List.cons_append], ?_⟩
      intro x hx hname
      rcases List.mem_append.mp hx with hafter | hlater
      · exact hlast x hafter hname
      · exact hnew (hname ▸ List.mem_map_of_mem hlater)

/-- The list merges three scopes: it is their only merge in this order, and on every name the
last scope that has it decides. -/
structure MergesScopes (path auth own merged : List ParameterEntry) : Prop where
  merges : Merges (path ++ auth ++ own) merged
  unique : ∀ other, Merges (path ++ auth ++ own) other → other = merged
  nodup : (merged.map ParameterEntry.name).Nodup
  precedence : ∀ e, e ∈ merged ↔
    e.LastIn own ∨
    e.name ∉ own.map ParameterEntry.name ∧ (e.LastIn auth ∨
      e.name ∉ auth.map ParameterEntry.name ∧ e.LastIn path)

/-- The entries that parameters resolve to. Those that cannot be resolved are left out. -/
def Context.entriesFrom (ctx : Context) (scope : String) (parameters : List Parameter) :
    List ParameterEntry :=
  parameters.filterMap fun p => (resolveParameter ctx scope p).value

/-- The parameters of an operation are the entries of its path, then a required text in the header
for each header of authentication, then its own entries, all merged by name. The later scope counts:
an operation's own entry takes the place of an authentication header with its name, and that one the
place of an entry of the path. -/
theorem collectParameters_merges_scopes (ctx : Context) (scope : String) (path : List Parameter)
    (auth : List AuthHeader) (own : List Parameter) :
    MergesScopes (ctx.entriesFrom scope path)
      (auth.map fun header =>
        { name := header.name, required := true, type := "string", location := .header })
      (ctx.entriesFrom scope own) (collectParameters ctx scope path auth own).value := by
  -- the scopes are kept one by one and then merged as one list
  have hvalue : (collectParameters ctx scope path auth own).value =
      mergeEntries (ctx.entriesFrom scope path ++ auth.map AuthHeader.entry ++
        ctx.entriesFrom scope own) := by
    rw [collectParameters, Report.value_bind, Report.value_bind, Report.value_keep,
      Report.value_keep, Report.value_pure]
    rfl
  have hmerges := merges_mergeEntries (ctx.entriesFrom scope path ++ auth.map AuthHeader.entry ++
    ctx.entriesFrom scope own)
  rw [← hvalue] at hmerges
  refine ⟨hmerges, fun other hother => hmerges.unique hother, hmerges.nodup, fun e => ?_⟩
  rw [hmerges.mem_iff, lastIn_append, lastIn_append]
  rfl

/-- A path with a limit and a key of its own, an operation that names the limit twice and the key of
its authentication once more, and a parameter without a type between them. -/
example : (collectParameters ⟨{}, {}, TypeMapper.standard⟩ "list"
      [{ name := some "X-Key", type := some "integer", location := some .query },
       { name := some "limit", type := some "string", location := some .query }]
      [⟨"X-Key", "key"⟩, ⟨"X-Session", "session"⟩]
      [{ name := some "limit", type := some "integer", location := some .query },
       { name := some "page" },
       { name := some "limit", type := some "boolean", location := some .header }]).value =
    [⟨"X-Key", true, "string", .header⟩, ⟨"limit", false, "boolean", .header⟩,
     ⟨"X-Session", true, "string", .header⟩] := by
  decide +kernel

end ServiceContract
