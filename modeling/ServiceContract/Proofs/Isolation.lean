import ServiceContract.Proofs.Coverage
import ServiceContract.Proofs.Stripping

/-!
# Elements that do not fit

An element that does not fit is skipped alone. A document and the same document stripped of such
elements are read alike, up to path items that are no objects and so have no operations. Nothing of
what is left is reported, and what is taken out is reported once, in the order of reading. What a
run makes of the two is the same.

Both documents are read by the same steps, so the two readings are compared step by step:
`ReadAlike` is what is said of two readings, and `ReadAlike.bind` carries it from one step to the
next.

Main results:

* `mends_sequence`, `mends_object` — stripping a part leaves what is read of it as it is.
* `readOperation_stripped`         — the same for an operation.
* `readItem_stripped`              — the same for a path item.
* `readParts_stripped`             — the same for a document, up to path items without operations.
* `stripped_isolated`              — the runs on the two documents.
-/

namespace ServiceContract

variable {α β γ δ : Type}

/-! ## Two readings -/

/-- What is left is read without a report, the whole with a report of what is taken out, and their
values stand in the relation `R`. -/
structure ReadAlike (R : α → β → Prop) (left : Report α) (whole : Report β)
    (removed : List Diagnostic) : Prop where
  value : R left.value whole.value
  silent : left.findings.diagnostics = []
  reported : whole.findings.diagnostics = removed

namespace ReadAlike

theorem pure {R : α → β → Prop} {a : α} {b : β} (h : R a b) :
    ReadAlike R (Pure.pure a) (Pure.pure b) [] :=
  ⟨h, rfl, rfl⟩

/-- Two readings go on alike if the values they gave are in relation. What is taken out follows what
was taken out before. -/
theorem bind {R : α → β → Prop} {S : γ → δ → Prop} {left : Report α} {whole : Report β}
    {f : α → Report γ} {g : β → Report δ} {first later : List Diagnostic}
    (h : ReadAlike R left whole first) (hf : ∀ a b, R a b → ReadAlike S (f a) (g b) later) :
    ReadAlike S (left >>= f) (whole >>= g) (first ++ later) where
  value := (hf _ _ h.value).value
  silent := by
    rw [Report.findings_bind, Findings.diagnostics_append, h.silent,
      (hf _ _ h.value).silent, List.append_nil]
  reported := by
    rw [Report.findings_bind, Findings.diagnostics_append, h.reported, (hf _ _ h.value).reported]

/-- A step of which both readings have the same. -/
theorem bind_eq {S : γ → δ → Prop} {left whole : Report α} {f : α → Report γ} {g : α → Report δ}
    {first later : List Diagnostic} (h : ReadAlike Eq left whole first)
    (hf : ∀ a, ReadAlike S (f a) (g a) later) :
    ReadAlike S (left >>= f) (whole >>= g) (first ++ later) :=
  h.bind fun a _ hab => hab ▸ hf a

/-- A step that only the whole has. -/
theorem bind_whole {R : α → γ → Prop} {left : Report α} {whole : Report β} {g : β → Report γ}
    {first later : List Diagnostic} (hfirst : whole.findings.diagnostics = first)
    (h : ReadAlike R left (g whole.value) later) :
    ReadAlike R left (whole >>= g) (first ++ later) where
  value := h.value
  silent := h.silent
  reported := by
    rw [Report.findings_bind, Findings.diagnostics_append, hfirst, h.reported]

/-- What is made of the values at last. -/
theorem last {R : α → β → Prop} {S : γ → δ → Prop} {left : Report α} {whole : Report β}
    {f : α → γ} {g : β → δ} {removed : List Diagnostic} (h : ReadAlike R left whole removed)
    (hf : ∀ a b, R a b → S (f a) (g b)) :
    ReadAlike S (left >>= fun a => Pure.pure (f a)) (whole >>= fun b => Pure.pure (g b))
      removed := by
  rw [← List.append_nil removed]
  exact h.bind fun a b hab => .pure (hf a b hab)

/-- At the end only the whole may have to be worked on, since stripping leaves the shape of what is
left. -/
theorem last_whole {R : α → β → Prop} {S : α → γ → Prop} {left : Report α} {whole : Report β}
    {g : β → γ} {removed : List Diagnostic} (h : ReadAlike R left whole removed)
    (hg : ∀ a b, R a b → S a (g b)) :
    ReadAlike S left (whole >>= fun b => Pure.pure (g b)) removed := by
  rw [← bind_pure left]
  exact h.last hg

end ReadAlike

/-! ## Parts -/

/-- Stripping a part leaves what is read of it as it is, up to `R`. -/
structure Mends (R : β → β → Prop) (strip : Json → Stripped (Option Json))
    (read : Option Json → Report β) : Prop where
  absent : ReadAlike R (read none) (read none) []
  present : ∀ v : Json, v.hasDistinctKeys = true →
    ReadAlike R (read (strip v).rest) (read (some v)) (strip v).removed

section Sequence

variable {read : Json → Except Mismatch α} {part : Subject} {scope : String}

/-- An element is taken out exactly if it does not fit, and reported with the words that the reader
has for it. -/
theorem readElement_spec (element : Json × Nat) :
    (readElement read part scope element).findings.diagnostics =
        (stripElement read part scope element).removed ∧
      (stripElement read part scope element).rest =
        (read element.1).toOption.map fun _ => element.1 := by
  unfold readElement stripElement
  cases read element.1 with
  | ok value => exact ⟨rfl, rfl⟩
  | error cause => exact ⟨rfl, rfl⟩

/-- Stripping a list leaves the elements that fit. -/
theorem rest_stripElements (items : List Json) :
    (stripEach (stripElement read part scope) items.zipIdx).rest =
      items.filterMap fun item => (read item).toOption.map fun _ => item := by
  have hrest : (fun element => (stripElement read part scope element).rest) =
      (fun item => (read item).toOption.map fun _ => item) ∘ Prod.fst :=
    funext fun element => (readElement_spec element).2
  rw [stripEach, hrest, ← List.filterMap_map, List.zipIdx_map_fst]

/-- Elements that are left keep their order, but not their places, so their readings are compared as
whole lists. -/
theorem readSequence_stripElements (items : List Json) :
    ReadAlike Eq
      (readSequence read part scope
        (some (.array (stripEach (stripElement read part scope) items.zipIdx).rest)))
      (readSequence read part scope (some (.array items)))
      (stripEach (stripElement read part scope) items.zipIdx).removed where
  value := by
    rw [value_readSequence_array, value_readSequence_array, rest_stripElements,
      List.filterMap_filterMap]
    congr 2
    funext item
    cases h : read item with
    | ok value => exact congrArg Except.toOption h
    | error cause => rfl
  silent := by
    rw [readSequence, Report.findings_map, Report.diagnostics_keep, List.flatMap_eq_nil_iff]
    intro element helement
    -- what is left fits, at whatever place it stands now
    have hleft := List.fst_mem_of_mem_zipIdx helement
    rw [rest_stripElements, List.mem_filterMap] at hleft
    obtain ⟨item, -, hitem⟩ := hleft
    obtain ⟨value, hread, rfl⟩ := Option.map_eq_some_iff.mp hitem
    rw [readElement]
    cases h : read element.1 with
    | ok _ => rfl
    | error cause =>
      rw [h] at hread
      cases hread
  reported := by
    rw [readSequence, Report.findings_map, Report.diagnostics_keep]
    exact congrArg (List.flatMap · items.zipIdx)
      (funext fun element => (readElement_spec element).1)

/-- A sequence without the elements that do not fit is read to the same list. The elements that are
left move up, which nothing but a report would show. -/
theorem mends_sequence :
    Mends Eq (stripSequence read part scope) (readSequence read part scope) where
  absent := ⟨rfl, rfl, rfl⟩
  present v _ := by
    cases v with
    | array items => exact readSequence_stripElements items
    | _ => exact ⟨rfl, rfl, rfl⟩

end Sequence

section Object

variable {part : Subject} {scope : String}

/-- An object is stripped right if its members are. -/
theorem mends_object {R : β → β → Prop}
    {strip : String × Json → Stripped (Option (String × Json))}
    {k : Option (List (String × Json)) → Report β}
    (absent : ReadAlike R (k none) (k none) [])
    (present : ∀ members, (Json.object members).hasDistinctKeys = true →
      ReadAlike R (k (some (stripEach strip members).rest)) (k (some members))
        (stripEach strip members).removed) :
    Mends R (stripObject part scope strip) (fun v => readObject part scope v >>= k) where
  absent := absent
  present v hkeys := by
    cases v with
    | null => exact absent
    | object members => exact present members hkeys
    -- a value of another kind is not there either way
    | _ => exact absent.bind_whole rfl

theorem rest_stripEach_cons {strip : α → Stripped (Option β)} {item : α} {rest : List α} :
    (stripEach strip (item :: rest)).rest =
      (strip item).rest.toList ++ (stripEach strip rest).rest := by
  rw [stripEach, List.filterMap_cons]
  cases (strip item).rest <;> rfl

theorem removed_stripEach_cons {strip : α → Stripped (Option β)} {item : α} {rest : List α} :
    (stripEach strip (item :: rest)).removed =
      (strip item).removed ++ (stripEach strip rest).removed := rfl

/-- A table's entries are stripped one by one. Taking one out leaves the keys of the others, and
with them the table that is read. -/
theorem readEntries_stripped (read : Json → Except Mismatch α) (members : List (String × Json)) :
    ReadAlike Eq
      (Report.keep (readEntry read part scope)
        (stripEach (stripEntry read part scope) members).rest)
      (Report.keep (readEntry read part scope) members)
      (stripEach (stripEntry read part scope) members).removed := by
  induction members with
  | nil => exact .pure rfl
  | cons entry rest ih =>
    cases h : read entry.2 with
    | ok value =>
      -- both read the entry
      have hread : readEntry read part scope entry = pure (some (entry.1, value)) := by
        rw [readEntry, h]
      have hstrip : stripEntry read part scope entry = ⟨some entry, []⟩ := by
        rw [stripEntry, h]
      rw [rest_stripEach_cons, removed_stripEach_cons, hstrip]
      exact .bind_eq (hread ▸ .pure rfl) fun _ => ih.last fun _ _ => congrArg _
    | error cause =>
      -- the whole reports the entry, and both go on
      have hread : readEntry read part scope entry =
          Report.warn scope (.badEntry part entry.1 cause) >>= fun _ => pure none := by
        rw [readEntry, h]
      have hstrip : stripEntry read part scope entry =
          ⟨none, [⟨scope, .badEntry part entry.1 cause⟩]⟩ := by
        rw [stripEntry, h]
      rw [rest_stripEach_cons, removed_stripEach_cons, hstrip, Report.keep, hread]
      exact .bind_whole rfl (ih.last_whole fun _ _ h => h)

/-- A table without the entries that do not fit is read to the same table. -/
theorem mends_table (read : Json → Except Mismatch α) :
    Mends Eq (stripTable read part scope) (readTable read part scope) :=
  mends_object (.pure rfl) fun members _ =>
    (readEntries_stripped read members).last fun _ _ h => congrArg (some ∘ Keyed.ofList) h

end Object

/-! ## Objects with parts -/

section Members

variable {parts : PartStrips} {members : List (String × Json)}

/-- A key is looked up in what is left as it was before, and its value stripped by the part it
belongs to. The keys have to be distinct, or what is left under a key could be another member's
value. -/
theorem lookup_stripParts (hnodup : (members.map (·.1)).Nodup) (key : String) :
    (stripParts parts members).rest.lookup key =
      (members.lookup key).bind fun value =>
        match parts.lookup key with
        | none => some value
        | some strip => (strip value).rest := by
  rw [stripParts, lookup_filterMap (fun e e' h => ?_) hnodup]
  · congr 1
    funext value
    cases parts.lookup key with
    | none => rfl
    | some strip => cases hrest : (strip value).rest <;> simp [hrest]
  · -- a member keeps its key
    split at h
    · cases h
      rfl
    · obtain ⟨value, -, rfl⟩ := Option.map_eq_some_iff.mp h
      rfl

/-- Other members stay. -/
theorem lookup_stripParts_other {key : String} (h : parts.lookup key = none)
    (hnodup : (members.map (·.1)).Nodup) :
    (stripParts parts members).rest.lookup key = members.lookup key := by
  rw [lookup_stripParts hnodup, h]
  exact Option.bind_fun_some _

/-- A part of an object is mended by stripping the member that holds it, and the other members do
not matter to it. -/
theorem Mends.part {R : β → β → Prop} {read : Option Json → Report β} {key : String}
    {strip : Json → Stripped (Option Json)} (h : Mends R strip read)
    (hpart : parts.lookup key = some strip)
    (hkeys : (Json.object members).hasDistinctKeys = true) :
    ReadAlike R (read ((stripParts parts members).rest.lookup key)) (read (members.lookup key))
      (match members.lookup key with
        | none => []
        | some value => (strip value).removed) := by
  obtain ⟨hnodup, hvalues⟩ := Json.hasDistinctKeys_object.mp hkeys
  rw [lookup_stripParts hnodup, hpart]
  cases hvalue : members.lookup key with
  | none => exact h.absent
  | some value =>
    have hmem : (key, value) ∈ members := (mem_iff_lookup hnodup).mpr hvalue
    exact h.present value (hvalues _ hmem)

end Members

/-! ## Operations and path items -/

/-- An operation without the misfits in its parts is read to the same operation. -/
theorem readOperation_stripped (method path : String) {members : List (String × Json)}
    (hkeys : (Json.object members).hasDistinctKeys = true) :
    ReadAlike Eq (Operation.read method path (.object (stripOperation method path members).rest))
      (Operation.read method path (.object members))
      (stripOperation method path members).removed := by
  have hnodup := (Json.hasDistinctKeys_object.mp hkeys).1
  have hid : (stripOperation method path members).rest.lookup "operationId" =
      members.lookup "operationId" := lookup_stripParts_other rfl hnodup
  have hsummary : (stripOperation method path members).rest.lookup "summary" =
      members.lookup "summary" := lookup_stripParts_other rfl hnodup
  -- so diagnostics of both have one scope
  simp only [Operation.read, Json.get?, hid, hsummary]
  refine (mends_sequence.part rfl hkeys).bind_eq fun parameters => ?_
  refine ((mends_table Response.read).part rfl hkeys).bind_eq fun responses => ?_
  exact (mends_sequence.part rfl hkeys).bind_eq fun security => .pure rfl

/-- The members of a path item are stripped one by one while they are read. The parameters of the
item must not have been read before, since those that are read later take their place. -/
theorem readMembers_stripped (path : String) {members : List (String × Json)} {acc : PathItem}
    (hkeys : (Json.object members).hasDistinctKeys = true)
    (hacc : "parameters" ∈ members.map (·.1) → acc.parameters = []) :
    ReadAlike Eq (PathItem.readMembers path acc (stripEach (stripMember path) members).rest)
      (PathItem.readMembers path acc members) (stripEach (stripMember path) members).removed := by
  -- by induction on the members: both readings have the same so far, and shared parameters only if
  -- their member is behind them
  induction members generalizing acc with
  | nil => exact .pure rfl
  | cons member rest ih =>
    obtain ⟨key, value⟩ := member
    rw [Json.hasDistinctKeys_object, List.map_cons, List.nodup_cons, List.forall_mem_cons] at hkeys
    obtain ⟨⟨hnew, hnodup⟩, hvalue, hvalues⟩ := hkeys
    have hrest : (Json.object rest).hasDistinctKeys = true :=
      Json.hasDistinctKeys_object.mpr ⟨hnodup, hvalues⟩
    have hlater : "parameters" ∈ rest.map (·.1) → acc.parameters = [] :=
      fun h => hacc (List.mem_cons_of_mem _ h)
    rw [rest_stripEach_cons, removed_stripEach_cons]
    cases hentry : ItemEntry.of key value with
    | ignored =>
      simp only [stripMember, hentry, Option.toList_some, List.singleton_append,
        PathItem.readMembers]
      exact ih hrest hlater
    | foreign =>
      simp only [stripMember, hentry, Option.toList_some, List.singleton_append,
        PathItem.readMembers]
      exact ReadAlike.bind_eq ⟨rfl, rfl, rfl⟩ fun _ => ih hrest hlater
    | operation method =>
      obtain ⟨members, rfl⟩ := ItemEntry.exists_members_of_operation hentry
      -- what is left of an operation is an object, so it is an operation still
      have hleft : ItemEntry.of key (.object (stripOperation method path members).rest) =
          .operation method := (ItemEntry.of_congr rfl).trans hentry
      simp only [stripMember, hentry, Option.toList_some, List.singleton_append,
        PathItem.readMembers, hleft]
      exact (readOperation_stripped method path hvalue).bind_eq fun _ => ih hrest hlater
    | parameters =>
      obtain rfl := ItemEntry.eq_of_parameters hentry
      have hshared : ReadAlike Eq
          (readSequence Parameter.read .pathParameter path
            (stripSequence Parameter.read .pathParameter path value).rest)
          (readSequence Parameter.read .pathParameter path (some value))
          (stripSequence Parameter.read .pathParameter path value).removed :=
        mends_sequence.present value hvalue
      simp only [stripMember, hentry, PathItem.readMembers]
      cases hleft : (stripSequence Parameter.read .pathParameter path value).rest with
      | some left =>
        rw [hleft] at hshared
        simp only [Option.map_some, Option.toList_some, List.singleton_append,
          PathItem.readMembers, ItemEntry.of_parameters]
        exact hshared.bind_eq fun _ => ih hrest fun h => absurd h hnew
      | none =>
        rw [hleft] at hshared
        -- the whole reads nothing from it, so it sets the shared parameters to what they are
        have hnone : (readSequence Parameter.read .pathParameter path (some value)).value = none :=
          hshared.value.symm
        have hsame : { acc with parameters := [] } = acc := by
          rw [← hacc (List.mem_cons_self ..)]
        refine .bind_whole hshared.reported ?_
        rw [hnone, Option.getD_none, hsame]
        exact ih hrest hlater

/-- A path item without the misfits in its members is read to the same path item. What stands for no
operation is left as it is, as it is not reported. -/
theorem readItem_stripped (path : String) {members : List (String × Json)}
    (hkeys : (Json.object members).hasDistinctKeys = true) :
    ReadAlike Eq (PathItem.read path (.object (stripEach (stripMember path) members).rest))
      (PathItem.read path (.object members)) (stripEach (stripMember path) members).removed :=
  readMembers_stripped path hkeys fun _ => rfl

/-! ## Documents -/

/-- The operations of one path item. -/
def declarationsOf (entry : String × PathItem) : List Declaration :=
  entry.2.operations.entries.map fun (method, operation) =>
    ⟨entry.1, entry.2, method, operation⟩

/-- Tables of path items with the same operations. -/
def SameOperations (items items' : List (String × PathItem)) : Prop :=
  (Keyed.ofList items).entries.flatMap declarationsOf =
    (Keyed.ofList items').entries.flatMap declarationsOf

theorem keys_readPaths (entries : List (String × Json)) :
    (Report.each readPath entries).value.map (·.1) = entries.map (·.1) := by
  rw [Report.value_each, List.map_map]
  rfl

theorem fst_of_stripPath {entry entry' : String × Json} (h : (stripPath entry).rest = some entry') :
    entry'.1 = entry.1 := by
  unfold stripPath at h
  split at h
  · cases h
    rfl
  all_goals cases h

/-- A path item that is taken out has no operations, and the others are read alike. -/
theorem readPaths_stripped {entries : List (String × Json)}
    (hvalues : ∀ e ∈ entries, e.2.hasDistinctKeys = true) :
    ReadAlike (fun items items' => items.flatMap declarationsOf = items'.flatMap declarationsOf)
      (Report.each readPath (stripEach stripPath entries).rest) (Report.each readPath entries)
      (stripEach stripPath entries).removed := by
  induction entries with
  | nil => exact .pure rfl
  | cons entry rest ih =>
    obtain ⟨path, value⟩ := entry
    obtain ⟨hvalue, hrest⟩ := List.forall_mem_cons.mp hvalues
    rw [rest_stripEach_cons, removed_stripEach_cons]
    cases value with
    | object members =>
      -- an object keeps its place, and its members are stripped within it
      have hitem : ReadAlike Eq
          (readPath (path, .object (stripEach (stripMember path) members).rest))
          (readPath (path, .object members)) (stripPath (path, .object members)).removed :=
        (readItem_stripped path hvalue).last fun _ _ h => congrArg (Prod.mk path) h
      refine hitem.bind_eq fun item => (ih hrest).last fun items items' h => ?_
      rw [List.flatMap_cons, List.flatMap_cons, h]
    -- anything else is taken out, and had no operations
    | _ => exact .bind_whole rfl ((ih hrest).last_whole fun items items' h => h)

/-- Paths whose items are no objects are taken out. They have no operations, so what is left agrees
with the whole in all operations. -/
theorem mends_paths :
    Mends SameOperations (stripObject .paths documentScope stripPath) fun v =>
      readObject .paths documentScope v >>= fun paths => Report.each readPath (paths.getD []) := by
  refine mends_object (.pure rfl) fun members hkeys => ?_
  obtain ⟨hnodup, hvalues⟩ := Json.hasDistinctKeys_object.mp hkeys
  have hread := readPaths_stripped hvalues
  -- each path is there once, before and after, so the tables have the items in their order
  have hleft : ((Report.each readPath (stripEach stripPath members).rest).value.map
      (·.1)).Nodup := by
    rw [keys_readPaths]
    exact nodup_keys_filterMap (fun _ _ => fst_of_stripPath) hnodup
  have hwhole : ((Report.each readPath members).value.map (·.1)).Nodup := by
    rw [keys_readPaths]
    exact hnodup
  refine ⟨?_, hread.silent, hread.reported⟩
  rw [SameOperations, Option.getD_some, Option.getD_some, Keyed.entries_ofList hleft,
    Keyed.entries_ofList hwhole]
  exact hread.value

/-- Definitions are not looked into, so they are left as they are. -/
theorem mends_definitions :
    Mends Eq (stripObject .definitions documentScope fun entry => ⟨some entry, []⟩)
      (readObject .definitions documentScope) where
  absent := .pure rfl
  present v _ := by
    cases v with
    | object members =>
      -- whatever a definition is, it stays
      have hstrip : stripEach (fun entry => ⟨some entry, []⟩) members = ⟨members, []⟩ := by
        simp [stripEach]
      rw [stripObject, hstrip]
      exact .pure rfl
    | _ => exact ⟨rfl, rfl, rfl⟩

/-- Documents with the same operations that are the same apart from their paths. -/
structure Document.Matches (d d' : Document) : Prop where
  declarations : d.declarations = d'.declarations
  parts : d = { d' with paths := d.paths }

/-- A document without what does not fit is read alike, up to path items without operations, and
without a report. The keys of each object have to be distinct, as they are in every text that is
read (`parse_keys`). -/
theorem readParts_stripped {raw : Json} (hkeys : raw.hasDistinctKeys = true) :
    ReadAlike Document.Matches (Document.readParts raw.stripped.rest) (Document.readParts raw)
      raw.stripped.removed := by
  cases raw with
  | object members =>
    have hnodup := (Json.hasDistinctKeys_object.mp hkeys).1
    have hswagger : (stripParts documentParts members).rest.lookup "swagger" =
        members.lookup "swagger" := lookup_stripParts_other rfl hnodup
    have hopenapi : (stripParts documentParts members).rest.lookup "openapi" =
        members.lookup "openapi" := lookup_stripParts_other rfl hnodup
    -- a part after the other, in the order in which both are read
    simp only [Json.stripped, Document.readParts, Json.get?, hswagger, hopenapi]
    rw [← bind_assoc, ← bind_assoc]
    refine (mends_paths.part rfl hkeys).bind fun paths paths' hpaths => ?_
    refine (mends_definitions.part rfl hkeys).bind_eq fun definitions => ?_
    refine ((mends_table Parameter.read).part rfl hkeys).bind_eq fun parameters => ?_
    refine ((mends_table SecurityScheme.read).part rfl hkeys).bind_eq fun schemes => ?_
    exact (mends_sequence.part rfl hkeys).bind_eq fun security => .pure ⟨hpaths, rfl⟩
  | _ => exact ⟨⟨rfl, rfl⟩, rfl, rfl⟩

/-! ## Runs -/

/-- Of the paths a run sees the declarations alone. -/
theorem Document.Matches.same_walk {d d' : Document} (h : d.Matches d')
    (settings : Settings) (mapper : TypeMapper) :
    (generateOperations ⟨d, settings, mapper⟩).value =
        (generateOperations ⟨d', settings, mapper⟩).value ∧
      (generateOperations ⟨d, settings, mapper⟩).findings.diagnostics =
        (generateOperations ⟨d', settings, mapper⟩).findings.diagnostics := by
  obtain ⟨hdeclarations, hparts⟩ := h
  have hsame : d = { d' with paths := d.paths, diagnostics := d.diagnostics } := by
    rw [hparts]
  have hbuild := buildOperation_of_parts hsame settings mapper
  unfold generateOperations
  split
  · -- the same declarations are walked and built alike
    rw [walkOperations_congr (congrFun hbuild), hdeclarations]
    exact ⟨rfl, rfl⟩
  · -- only the log counts the paths
    simp

/-- What does not fit makes no difference but that it is reported. -/
structure Isolated (raw : Json) : Prop where
  silent : (Document.read raw.stripped.rest).value.diagnostics = []
  reported : (Document.read raw).value.diagnostics = raw.stripped.removed
  /-- Both documents are refused for one reason, or the runs on them differ in what was reported on
  reading alone. -/
  runs : ∀ settings mapper,
    (∃ fault,
      generate ⟨(Document.read raw.stripped.rest).value, settings, mapper⟩ = .error fault ∧
      generate ⟨(Document.read raw).value, settings, mapper⟩ = .error fault) ∨
    ∃ left whole,
      generate ⟨(Document.read raw.stripped.rest).value, settings, mapper⟩ = .ok left ∧
      generate ⟨(Document.read raw).value, settings, mapper⟩ = .ok whole ∧
      whole.value =
        { left.value with diagnostics := raw.stripped.removed ++ left.value.diagnostics }

/-- What does not fit in a document makes no difference to a run but that it is reported: once,
before what the walk reports, and in the order of reading. The runs on the stripped document hand on
the same models, operations and imports under all settings and mappers. `keys` says that the members
of each object have distinct keys. A value that is read from a text has them (`parse_keys`), and
without it a key could be looked up in two members. -/
theorem stripped_isolated {raw : Json} (keys : raw.hasDistinctKeys = true) : Isolated raw := by
  obtain ⟨hmatches, hsilent, hreported⟩ := readParts_stripped keys
  refine ⟨hsilent, hreported, fun settings mapper => ?_⟩
  have hversion : (Document.read raw.stripped.rest).value.checkVersion =
      (Document.read raw).value.checkVersion := by
    rw [Document.read, Document.read, hmatches.parts]
    rfl
  cases haccepted : (Document.read raw).value.checkVersion with
  | error fault =>
    left
    refine ⟨fault, ?_, ?_⟩
    · rw [generate, hversion, haccepted]
      rfl
    · rw [generate, haccepted]
      rfl
  | ok _ =>
    right
    refine ⟨_, _, generate_eq_ok.mpr ⟨hversion.trans haccepted, rfl⟩,
      generate_eq_ok.mpr ⟨haccepted, rfl⟩, ?_⟩
    obtain ⟨hoperations, hwalk⟩ := hmatches.same_walk settings mapper
    have hmodels : (Document.readParts raw.stripped.rest).value.models settings.strictInterfaces =
        (Document.readParts raw).value.models settings.strictInterfaces := by
      rw [hmatches.parts]
      rfl
    -- the walk does not see what was reported on reading
    rw [value_generateAll, value_generateAll, Document.read, Document.read]
    simp only [generateOperations_diagnostics, hsilent, hreported, ← hoperations, ← hwalk,
      List.nil_append]
    exact congrArg (fun models => Generation.mk models _ _ _) hmodels.symm

/-- A document with a misfit in most places where one can be. -/
def misfits : Json := .object [
  ("swagger", .string "2.0"),
  ("definitions", .array []),
  ("securityDefinitions", .object [("key", .number (.whole 3)), ("login", .object [])]),
  ("paths", .object [
    ("/gone", .null),
    ("/orders", .object [
      ("parameters", .string "none"),
      ("get", .object [
        ("operationId", .string "list"),
        ("parameters", .array [.bool true, .object [("name", .string "page")]]),
        ("responses", .object [("200", .object []), ("404", .number (.whole 7))]),
        ("security", .array [.object [("key", .string "all")], .object []])])])])]

/-- The keys of that document are distinct, so its misfits are isolated. -/
theorem misfits_isolated : misfits.hasDistinctKeys = true ∧ Isolated misfits :=
  ⟨by decide, stripped_isolated (by decide)⟩

example : misfits.stripped.removed.map (·.scope) =
    ["/gone", "/orders", "list", "list", "list", "document", "document", "document"] := by
  decide +kernel

end ServiceContract
