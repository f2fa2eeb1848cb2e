import ServiceContract.Proofs.ImportClosure
import ServiceContract.Proofs.Tables

/-!
# Imports without a use

A model is imported when a parameter that refers to it is resolved. Only afterwards are the entries
of the path, of authentication and of the operation merged by name, and an entry gives way to a
later one of its name. Its import stays behind. If nothing else is typed by the model, the
descriptor imports a name that it does not use.

Main results:

* `mem_mergeEntries`             — what a merge leaves: the last entry of each name.
* `imported_unused_iff`          — for a descriptor: which names it imports without a use.
* `imports_used_unless_replaced` — the same for all runs.
* `replacedBody_stale`           — a run with such an import.
-/

namespace ServiceContract

/-! ## Merging -/

/-- The entry is in the list, and no later one has its name. -/
def ParameterEntry.LastIn (e : ParameterEntry) (entries : List ParameterEntry) : Prop :=
  ∃ before after, entries = before ++ e :: after ∧ ∀ later ∈ after, later.name ≠ e.name

/-- Of the entries with one name the last is left. -/
theorem mem_mergeEntries {entries : List ParameterEntry} {e : ParameterEntry} :
    e ∈ mergeEntries entries ↔ e.LastIn entries := mem_mergeBy

/-- A merge loses no name. -/
theorem exists_mem_mergeEntries {entries : List ParameterEntry} {e : ParameterEntry}
    (h : e ∈ entries) : ∃ winner ∈ mergeEntries entries, winner.name = e.name :=
  exists_mem_mergeBy h

/-- Entries with distinct names are all left. -/
theorem lastIn_of_nodup {entries : List ParameterEntry} {e : ParameterEntry}
    (hnodup : (entries.map ParameterEntry.name).Nodup) (h : e ∈ entries) : e.LastIn entries := by
  obtain ⟨before, after, rfl⟩ := List.append_of_mem h
  refine ⟨before, after, rfl, ?_⟩
  intro later hlater hname
  rw [List.map_append, List.map_cons, List.nodup_append] at hnodup
  obtain ⟨-, htail, -⟩ := hnodup
  exact (List.nodup_cons.mp htail).1 (hname ▸ List.mem_map_of_mem hlater)

/-! ## The entries of an operation -/

/-- The entries of an operation in the order of merging: those of its path, then those of
authentication, then its own. -/
def Context.entriesOf (ctx : Context) (d : Declaration) (id : String) : List ParameterEntry :=
  (d.item.parameters.filterMap fun p => (resolveParameter ctx id p).value) ++
    (ctx.authHeaders d.operation).value.map AuthHeader.entry ++
    d.operation.parameters.filterMap fun p => (resolveParameter ctx id p).value

/-- A descriptor's parameters are its declaration's entries, merged by name. -/
theorem Describes.merged {ctx : Context} {d : Declaration} {op : OperationDescriptor}
    (hop : Describes ctx d op) :
    op.parameters = mergeEntries (ctx.entriesOf d op.operationId) := by
  rw [hop.parameters, Context.parametersOf, collectParameters, Report.value_bind,
    Report.value_bind, Report.value_keep, Report.value_keep, Report.value_pure]
  rfl

/-- Every parameter that is resolved has its entry among those that are merged. -/
theorem mem_entriesOf {ctx : Context} {d : Declaration} {id : String} {p : Parameter}
    {e : ParameterEntry} (hp : p ∈ d.item.parameters ++ d.operation.parameters)
    (he : (resolveParameter ctx id p).value = some e) : e ∈ ctx.entriesOf d id := by
  rw [Context.entriesOf, List.mem_append, List.mem_append, List.mem_filterMap, List.mem_filterMap]
  rcases List.mem_append.mp hp with hpath | hown
  · exact Or.inl (Or.inl ⟨p, hpath, he⟩)
  · exact Or.inr ⟨p, hown, he⟩

/-- A parameter that refers to a definition resolves to an entry of its type. -/
theorem exists_entry_of_refersTo {ctx : Context} {p : Parameter} {name : String} (scope : String)
    (h : ctx.document.RefersTo p name) :
    ∃ e, (resolveParameter ctx scope p).value = some e ∧ e.type = name := by
  cases h with
  | own untyped points =>
    rw [resolveParameter_of_definition untyped points.1, resolveDefinition, if_pos points.2]
    exact ⟨_, rfl, rfl⟩
  | shared key target untyped reference found untypedTarget points =>
    have htype : ctx.sharedDefinition? target = some name := sharedDefinition?_eq_some.mpr points
    rw [resolveParameter_of_parameter untyped reference]
    simp only [resolveShared, found, resolveSharedType, untypedTarget, htype, Report.value_bind,
      Report.value_pure, Option.map_some]
    exact ⟨_, rfl, rfl⟩

/-! ## A descriptor -/

/-- A parameter or a response of the descriptor is typed by `name`. -/
def OperationDescriptor.Uses (op : OperationDescriptor) (name : String) : Prop :=
  (∃ e ∈ op.parameters, e.type = name) ∨ ∃ e ∈ op.responses, e.type = name

/-- A response that refers to a definition uses it. -/
theorem uses_of_response {ctx : Context} {d : Declaration} {op : OperationDescriptor}
    (hop : Describes ctx d op) {declared : String × Response} {name : String}
    (hmem : declared ∈ d.operation.responses.entries)
    (hpoints : ctx.document.PointsTo (declared.2.schema.bind Schema.reference) name) :
    op.Uses name := by
  have hentry := Context.entryOf_of_some (modelOf?_eq_some.mpr hpoints)
  refine Or.inr ⟨ctx.entryOf declared, ?_, by rw [hentry]⟩
  rw [hop.entries]
  exact List.mem_map_of_mem hmem

/-- A name is imported without a use exactly if the operation refers to it, no response is typed by
it, and every entry that is gives way to a later one. -/
theorem imported_unused_iff {ctx : Context} {d : Declaration} {op : OperationDescriptor}
    (h : (buildOperation ctx d).value = some op) {name : String} :
    name ∈ op.imports.names ∧ ¬ op.Uses name ↔
      ctx.document.References d name ∧ (∀ e ∈ op.responses, e.type ≠ name) ∧
        ∀ before e after, ctx.entriesOf d op.operationId = before ++ e :: after →
          e.type = name → ∃ later ∈ after, later.name = e.name := by
  have hmerged := (describes_of_build h).merged
  rw [mem_imports_iff h]
  refine and_congr_right fun _ => ?_
  constructor
  · intro hunused
    refine ⟨fun e he htype => hunused (Or.inr ⟨e, he, htype⟩), ?_⟩
    intro before e after hsplit htype
    -- an entry that is followed by none of its name is left by the merge
    apply Classical.byContradiction
    intro hlast
    refine hunused (Or.inl ⟨e, ?_, htype⟩)
    rw [hmerged, mem_mergeEntries]
    refine ⟨before, after, hsplit, ?_⟩
    intro later hlater hname
    exact hlast ⟨later, hlater, hname⟩
  · rintro ⟨hresponses, hreplaced⟩ (⟨e, he, htype⟩ | ⟨e, he, htype⟩)
    · rw [hmerged, mem_mergeEntries] at he
      obtain ⟨before, after, hsplit, hlast⟩ := he
      obtain ⟨later, hlater, hname⟩ := hreplaced before e after hsplit htype
      exact hlast later hlater hname
    · exact hresponses e he htype

/-- Behind an import without a use is a parameter whose name another entry has taken. -/
theorem exists_replaced_of_unused {ctx : Context} {d : Declaration} {op : OperationDescriptor}
    (h : (buildOperation ctx d).value = some op) {name : String}
    (himported : name ∈ op.imports.names) (hunused : ¬ op.Uses name) :
    ∃ p ∈ d.item.parameters ++ d.operation.parameters, ctx.document.RefersTo p name ∧
      ∃ e, (resolveParameter ctx op.operationId p).value = some e ∧ e.type = name ∧
        ∃ winner ∈ op.parameters, winner.name = e.name ∧ winner.type ≠ name := by
  have hop := describes_of_build h
  rcases (mem_imports_iff h).mp himported with ⟨p, hp, hrefers⟩ | ⟨declared, hmem, hpoints⟩
  · obtain ⟨e, he, htype⟩ := exists_entry_of_refersTo op.operationId hrefers
    obtain ⟨winner, hwinner, hname⟩ := exists_mem_mergeEntries (mem_entriesOf hp he)
    rw [← hop.merged] at hwinner
    refine ⟨p, hp, hrefers, e, he, htype, winner, hwinner, hname, ?_⟩
    intro hsame
    exact hunused (Or.inl ⟨winner, hwinner, hsame⟩)
  · exact absurd (uses_of_response hop hmem hpoints) hunused

/-- Which imports of a descriptor have a use. -/
structure ImportUse (ctx : Context) (d : Declaration) (op : OperationDescriptor) : Prop where
  unused : ∀ name, name ∈ op.imports.names ∧ ¬ op.Uses name ↔
    ctx.document.References d name ∧ (∀ e ∈ op.responses, e.type ≠ name) ∧
      ∀ before e after, ctx.entriesOf d op.operationId = before ++ e :: after →
        e.type = name → ∃ later ∈ after, later.name = e.name
  replaced : ∀ name ∈ op.imports.names, ¬ op.Uses name →
    ∃ p ∈ d.item.parameters ++ d.operation.parameters, ctx.document.RefersTo p name ∧
      ∃ e, (resolveParameter ctx op.operationId p).value = some e ∧ e.type = name ∧
        ∃ winner ∈ op.parameters, winner.name = e.name ∧ winner.type ≠ name
  /-- Where no two entries share a name, every import has a use. -/
  distinct : ((ctx.entriesOf d op.operationId).map ParameterEntry.name).Nodup →
    ∀ name ∈ op.imports.names, op.Uses name

/-! ## All runs -/

/-- In every run, an import lacks a use only by an entry that gave way to a later one. Imports are
collected while parameters are resolved, and the merge comes after that, so what it replaces stays
imported. -/
theorem imports_used_unless_replaced (ctx : Context) (r : Report Generation)
    (run : generate ctx = .ok r) (op : OperationDescriptor) (member : op ∈ r.value.operations) :
    ∃ d ∈ ctx.document.declarations,
      (buildOperation ctx d).value = some op ∧ ImportUse ctx d op := by
  obtain ⟨-, rfl⟩ := generate_eq_ok.mp run
  obtain ⟨d, hd, hvalue⟩ := exists_declaration_of_mem member
  refine ⟨d, hd, hvalue, fun _ => imported_unused_iff hvalue,
    fun _ => exists_replaced_of_unused hvalue, ?_⟩
  intro hnodup name himported
  apply Classical.byContradiction
  intro hunused
  obtain ⟨-, -, hreplaced⟩ := (imported_unused_iff hvalue).mp ⟨himported, hunused⟩
  obtain ⟨p, hp, -, e, he, htype, -⟩ := exists_replaced_of_unused hvalue himported hunused
  -- the entry of the reference is the last of its name, as all are
  obtain ⟨before, after, hsplit, hlast⟩ := lastIn_of_nodup hnodup (mem_entriesOf hp he)
  obtain ⟨later, hlater, hname⟩ := hreplaced before e after hsplit htype
  exact hlast later hlater hname

/-- A path with a parameter that refers to a definition, and an operation with a parameter of the
same name that states its type in place. Its response refers to another definition. -/
def replacedBody : Context where
  document :=
    { swagger := some "2.0"
      definitions := Keyed.ofList [("Order", .object []), ("Receipt", .object [])]
      paths := Keyed.ofList [("/orders", {
        parameters := [{ name := some "order", location := some .body,
                         schema := some ⟨some "#/definitions/Order", none, none⟩ }]
        operations := Keyed.ofList [
          ("get", {
            operationId := some "list"
            parameters := [{ name := some "order", location := some .query,
                             type := some "string" }]
            responses := Keyed.ofList
              [("200", { schema := some ⟨some "#/definitions/Receipt", none, none⟩ })] })] })] }
  settings := {}
  mapper := TypeMapper.standard

/-- A run in which a body of the path gives way to a parameter of the operation. -/
theorem replacedBody_import_use :
    ∃ r op, generate replacedBody = .ok r ∧ op ∈ r.value.operations ∧
      ∃ d ∈ replacedBody.document.declarations,
        (buildOperation replacedBody d).value = some op ∧ ImportUse replacedBody d op :=
  ⟨_, _, rfl, List.mem_cons_self ..,
    imports_used_unless_replaced replacedBody _ rfl _ (List.mem_cons_self ..)⟩

/-- The definition that only the replaced parameter refers to is imported, and typed by it is
nothing. -/
theorem replacedBody_stale :
    ∃ r op, generate replacedBody = .ok r ∧ op ∈ r.value.operations ∧
      "Order" ∈ op.imports.names ∧ (∀ e ∈ op.parameters, e.type ≠ "Order") ∧
      ∀ e ∈ op.responses, e.type ≠ "Order" := by
  refine ⟨_, _, rfl, List.mem_cons_self .., ?_, ?_, ?_⟩
  · decide +kernel
  · decide +kernel
  · decide +kernel

end ServiceContract
