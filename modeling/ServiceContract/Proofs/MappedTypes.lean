import ServiceContract.Proofs.ImportUse
import ServiceContract.Proofs.TwoRuns

/-!
# Types that the mapper writes

A type mapper puts the types that parameters state in place into words of the output, and these go
into the entries of an operation. From there they go nowhere else: merging, headers and locations
look at the rest of an entry only. So two mappers give runs that differ in such types alone. An
entry that won the merge is typed by its source: an inline type, the parameter's own or that of a
shared parameter, is written by the mapper; a definition and an authentication header have one type
under all mappers.

Main results:

* `mergeBy_filterMap_alike` — two merges over the same sources are won by the same ones.
* `resolveParameter_alike`  — a parameter is resolved alike, but for a type stated in place.
* `mapper_confined`         — runs under two mappers agree on all but such types.
-/

namespace ServiceContract

/-! ## Sources of entries -/

/-- The type is stated in place, together with the item type: by the parameter itself or by the
shared parameter that it refers to. -/
inductive Document.StatesType (d : Document) (p : Parameter) : String → Option String → Prop
  | own {type : String} (stated : p.inlineType = some type) : d.StatesType p type p.itemType
  | shared {key type : String} {target : Parameter} (untyped : p.inlineType = none)
      (reference : p.pointer.bind Reference.ofPointer? = some ⟨.parameter, key⟩)
      (found : d.sharedParameter? key = some target) (stated : target.inlineType = some type) :
      d.StatesType p type target.itemType

/-- What an entry of the merged parameters comes from. -/
inductive EntrySource where
  | declared (p : Parameter)
  | header (h : AuthHeader)

/-- The entry that a source gives, if it gives one. -/
def Context.entryFrom (ctx : Context) (scope : String) : EntrySource → Option ParameterEntry
  | .declared p => (resolveParameter ctx scope p).value
  | .header h => some h.entry

/-- The sources of an operation's entries, in the order of merging. -/
def entrySources (path : List Parameter) (auth : List AuthHeader) (own : List Parameter) :
    List EntrySource :=
  path.map .declared ++ auth.map .header ++ own.map .declared

/-- The types that an entry from the source gets under two mappers. -/
inductive EntrySource.Typed (document : Document) (m m' : TypeMapper) :
    EntrySource → String → String → Prop
  | inPlace {p : Parameter} {type : String} {item : Option String}
      (stated : document.StatesType p type item) :
      Typed document m m' (.declared p) (m.inlineType type item) (m'.inlineType type item)
  | definition {p : Parameter} {name : String} (refers : document.RefersTo p name) :
      Typed document m m' (.declared p) name name
  | header (h : AuthHeader) : Typed document m m' (.header h) h.entry.type h.entry.type

/-- The entries that the source gives under two mappers: they differ in their types at most. -/
structure EntrySource.Gives (document : Document) (m m' : TypeMapper) (s : EntrySource)
    (e e' : ParameterEntry) : Prop where
  same : e' = { e with type := e'.type }
  typed : s.Typed document m m' e.type e'.type

/-- The two entries of a source have one name, since a mapper sees no names. So they meet the same
entries when they are merged. -/
theorem EntrySource.Gives.name_eq {document : Document} {m m' : TypeMapper} {s : EntrySource}
    {e e' : ParameterEntry} (h : s.Gives document m m' e e') : e.name = e'.name := by
  rw [h.same]

/-- The entries of an operation are those its sources give, merged. -/
theorem value_collectParameters (ctx : Context) (scope : String) (path : List Parameter)
    (auth : List AuthHeader) (own : List Parameter) :
    (collectParameters ctx scope path auth own).value =
      mergeBy ParameterEntry.name
        ((entrySources path auth own).filterMap (ctx.entryFrom scope)) := by
  -- the sources of a scope give the entries that are kept of it
  have hdeclared : ∀ l : List Parameter,
      (l.map EntrySource.declared).filterMap (ctx.entryFrom scope) =
        l.filterMap fun p => (resolveParameter ctx scope p).value := by
    intro l
    rw [List.filterMap_map]
    rfl
  have hheaders : (auth.map EntrySource.header).filterMap (ctx.entryFrom scope) =
      auth.map AuthHeader.entry := by
    rw [List.filterMap_map, ← List.filterMap_eq_map]
    rfl
  rw [entrySources, List.filterMap_append, List.filterMap_append, hdeclared, hdeclared, hheaders,
    collectParameters, Report.value_bind, Report.value_bind, Report.value_keep, Report.value_keep,
    Report.value_pure]
  rfl

/-! ## Merging what two runs give -/

section Merging

variable {σ α : Type} {name : α → String}

/-- The source gives `x`, and no later one gives an item of its name. -/
def LastFrom (name : α → String) (f : σ → Option α) (sources : List σ) (s : σ) (x : α) : Prop :=
  f s = some x ∧ ∃ before after, sources = before ++ s :: after ∧
    ∀ later ∈ after, ∀ y, f later = some y → name y ≠ name x

/-- What a merge leaves has the source that was the last to give an item of the name. -/
theorem mem_mergeBy_filterMap {f : σ → Option α} {sources : List σ} {x : α}
    (h : x ∈ mergeBy name (sources.filterMap f)) : ∃ s, LastFrom name f sources s x := by
  obtain ⟨before, after, hsplit, hlast⟩ := mem_mergeBy.mp h
  obtain ⟨front, back, rfl, -, hback⟩ := List.filterMap_eq_append_iff.mp hsplit
  obtain ⟨idle, s, rest, rfl, -, hs, rfl⟩ := List.filterMap_eq_cons_iff.mp hback
  refine ⟨s, hs, front ++ idle, rest, (List.append_assoc ..).symm, ?_⟩
  intro later hlater y hy
  exact hlast y (List.mem_filterMap.mpr ⟨later, hlater, hy⟩)

/-- Two related options are the sides of one option of pairs, so that two merges can be compared as
one. -/
theorem exists_pair_of_rel {R : α → α → Prop} {a b : Option α} (h : Option.Rel R a b) :
    ∃ pair : Option (α × α), pair.map Prod.fst = a ∧ pair.map Prod.snd = b ∧
      ∀ x y, pair = some (x, y) → R x y := by
  cases h with
  | none => exact ⟨none, rfl, rfl, fun x y hxy => nomatch hxy⟩
  | some hab =>
    refine ⟨some (_, _), rfl, rfl, ?_⟩
    intro x y hxy
    cases hxy
    exact hab

/-- If each source gives related items, or none, in two runs, then the merges are won by the same
sources, one for one. -/
theorem mergeBy_filterMap_alike {R : σ → α → α → Prop} {f g : σ → Option α}
    (hname : ∀ s x y, R s x y → name x = name y) (h : ∀ s, Option.Rel (R s) (f s) (g s))
    (sources : List σ) :
    List.Forall₂
      (fun x y => ∃ s, R s x y ∧ LastFrom name f sources s x ∧ LastFrom name g sources s y)
      (mergeBy name (sources.filterMap f)) (mergeBy name (sources.filterMap g)) := by
  -- both lists are projections of one list of pairs, and the pairs are merged but once
  choose pairs hfst hsnd hR using fun s => exists_pair_of_rel (h s)
  have hleft : mergeBy name (sources.filterMap f) =
      (mergeBy (fun pair : α × α => name pair.1) (sources.filterMap pairs)).map Prod.fst := by
    rw [← mergeBy_map fun _ _ => rfl, List.map_filterMap]
    exact congrArg _ (List.filterMap_congr fun s _ => (hfst s).symm)
  have hright : mergeBy name (sources.filterMap g) =
      (mergeBy (fun pair : α × α => name pair.1) (sources.filterMap pairs)).map Prod.snd := by
    have hnames : ∀ pair ∈ sources.filterMap pairs, name pair.2 = name pair.1 := by
      intro pair hmem
      obtain ⟨s, -, hs⟩ := List.mem_filterMap.mp hmem
      exact (hname s _ _ (hR s _ _ hs)).symm
    rw [← mergeBy_map hnames, List.map_filterMap]
    exact congrArg _ (List.filterMap_congr fun s _ => (hsnd s).symm)
  rw [hleft, hright, List.forall₂_map_left_iff, List.forall₂_map_right_iff, List.forall₂_same]
  rintro ⟨x, y⟩ hmem
  obtain ⟨s, hs, before, after, hsplit, hlast⟩ := mem_mergeBy_filterMap hmem
  have hxy : R s x y := hR s x y hs
  refine ⟨s, hxy, ⟨?_, before, after, hsplit, ?_⟩, ?_, before, after, hsplit, ?_⟩
  · rw [← hfst s, hs, Option.map_some]
  · intro later hlater z hz
    rw [← hfst later] at hz
    obtain ⟨pair, hpair, rfl⟩ := Option.map_eq_some_iff.mp hz
    exact hlast later hlater pair hpair
  · rw [← hsnd s, hs, Option.map_some]
  · intro later hlater z hz
    rw [← hsnd later] at hz
    obtain ⟨pair, hpair, rfl⟩ := Option.map_eq_some_iff.mp hz
    rw [← hname s x y hxy, ← hname later _ _ (hR later _ _ hpair)]
    exact hlast later hlater pair hpair

end Merging

/-! ## One operation -/

section Steps

variable {document : Document} {settings : Settings} {m m' : TypeMapper}

/-- Under two mappers the type of a shared parameter is what they make of the stated one, or it is
the same definition. The same is imported and reported either way. -/
theorem resolveSharedType_alike (scope key : String) (target : Parameter) :
    (resolveSharedType ⟨document, settings, m⟩ scope key target).Alike
      (Option.Rel fun type type' =>
        (∃ stated, target.inlineType = some stated ∧ type = m.inlineType stated target.itemType ∧
          type' = m'.inlineType stated target.itemType) ∨
        (target.inlineType = none ∧ document.PointsTo target.pointer type ∧ type = type'))
      (resolveSharedType ⟨document, settings, m'⟩ scope key target) := by
  unfold resolveSharedType
  cases htype : target.inlineType with
  | some stated => exact .pure (.some (Or.inl ⟨stated, rfl, rfl, rfl⟩))
  | none =>
    -- the look-up of a definition does not ask the mapper
    have hlookup : Context.sharedDefinition? ⟨document, settings, m'⟩ target =
      Context.sharedDefinition? ⟨document, settings, m⟩ target := rfl
    rw [hlookup]
    cases hdefinition : Context.sharedDefinition? ⟨document, settings, m⟩ target with
    | none => exact ⟨.none, rfl⟩
    | some definition =>
      have hpoints : document.PointsTo target.pointer definition :=
        sharedDefinition?_eq_some.mp hdefinition
      exact (Report.Alike.refl _).bind_eq fun _ => .pure (.some (Or.inr ⟨rfl, hpoints, rfl⟩))

/-- A parameter is resolved alike, but for a type stated in place. -/
theorem resolveParameter_alike (scope : String) (p : Parameter) :
    (resolveParameter ⟨document, settings, m⟩ scope p).Alike
      (Option.Rel ((EntrySource.declared p).Gives document m m'))
      (resolveParameter ⟨document, settings, m'⟩ scope p) := by
  cases p.typing with
  | stated type states =>
    rw [resolveParameter_of_stated states, resolveParameter_of_stated states]
    simp only [resolveInline]
    cases p.name with
    | none => exact ⟨.none, rfl⟩
    | some name => exact .pure (.some ⟨rfl, .inPlace (.own states)⟩)
  -- from here on nothing depends on the mapper but the type of a shared parameter
  | definition name untyped reference =>
    rw [resolveParameter_of_definition untyped reference,
      resolveParameter_of_definition untyped reference]
    simp only [resolveDefinition]
    split
    · next hdefines =>
      have hrefers : document.RefersTo p name := .own untyped ⟨reference, hdefines⟩
      exact (Report.Alike.refl _).bind_eq fun _ => .pure (.some ⟨rfl, .definition hrefers⟩)
    · exact ⟨.none, rfl⟩
  | parameter key untyped reference =>
    rw [resolveParameter_of_parameter untyped reference,
      resolveParameter_of_parameter untyped reference]
    simp only [resolveShared]
    cases hfound : document.sharedParameter? key with
    | none => exact ⟨.none, rfl⟩
    | some target =>
      refine (resolveSharedType_alike scope key target).bind fun type type' hrel => ?_
      cases hrel with
      | none => exact .pure .none
      | some hrel =>
        rcases hrel with ⟨stated, hstated, rfl, rfl⟩ | ⟨huntyped, hpoints, rfl⟩
        · exact .pure (.some ⟨rfl, .inPlace (.shared untyped reference hfound hstated)⟩)
        · have hrefers : document.RefersTo p _ :=
            .shared key target untyped reference hfound huntyped hpoints
          exact .pure (.some ⟨rfl, .definition hrefers⟩)
  | nothing untyped foreign =>
    obtain ⟨issue, -, hskip⟩ := exists_skip_of_nothing untyped foreign
    rw [hskip, hskip]
    exact ⟨.none, rfl⟩

/-- A source gives an entry under both mappers or under neither. -/
theorem entryFrom_alike (scope : String) (s : EntrySource) :
    Option.Rel (s.Gives document m m') (Context.entryFrom ⟨document, settings, m⟩ scope s)
      (Context.entryFrom ⟨document, settings, m'⟩ scope s) := by
  cases s with
  | declared p => exact (resolveParameter_alike scope p).value
  | header h => exact .some ⟨rfl, .header h⟩

/-- The entries of one place in two merges: they come from the source that won, which gives them
under the two mappers. -/
def EntriesAlike (document : Document) (settings : Settings) (m m' : TypeMapper) (scope : String)
    (sources : List EntrySource) (e e' : ParameterEntry) : Prop :=
  ∃ s : EntrySource, s.Gives document m m' e e' ∧
    LastFrom ParameterEntry.name (Context.entryFrom ⟨document, settings, m⟩ scope) sources s e ∧
    LastFrom ParameterEntry.name (Context.entryFrom ⟨document, settings, m'⟩ scope) sources s e'

/-- Merged parameters agree place by place. An entry's type may differ only if the source that won
the merge states it in place. -/
theorem collectParameters_alike (scope : String) (path : List Parameter) (auth : List AuthHeader)
    (own : List Parameter) :
    (collectParameters ⟨document, settings, m⟩ scope path auth own).Alike
      (List.Forall₂ (EntriesAlike document settings m m' scope (entrySources path auth own)))
      (collectParameters ⟨document, settings, m'⟩ scope path auth own) := by
  constructor
  · -- the merge looks at names, which the two entries of a source share
    rw [value_collectParameters, value_collectParameters]
    exact mergeBy_filterMap_alike (fun _ _ _ h => h.name_eq) (entryFrom_alike scope) _
  · have hkeep : ∀ l : List Parameter,
        (Report.keep (resolveParameter ⟨document, settings, m⟩ scope) l).findings =
          (Report.keep (resolveParameter ⟨document, settings, m'⟩ scope) l).findings := by
      intro l
      rw [Report.findings_keep, Report.findings_keep]
      refine congrArg _ (List.map_congr_left fun p _ => ?_)
      have hparameter : (resolveParameter ⟨document, settings, m⟩ scope p).Alike _
          (resolveParameter ⟨document, settings, m'⟩ scope p) := resolveParameter_alike scope p
      exact hparameter.findings
    simp only [collectParameters, Report.findings_bind, Report.findings_pure, hkeep]

/-- The headers of a request do not depend on the types of its parameters. -/
theorem requestHeaders_alike {scope : String} {sources : List EntrySource}
    (method : HttpMethod) (auth : List AuthHeader) {entries entries' : List ParameterEntry}
    (h : List.Forall₂ (EntriesAlike document settings m m' scope sources) entries entries') :
    requestHeaders method auth entries = requestHeaders method auth entries' := by
  -- headers are made of names and locations, and only types differ
  have hfaces : entries.map (fun e => (e.name, e.location)) =
      entries'.map fun e => (e.name, e.location) := by
    rw [← List.forall₂_eq_eq_eq, List.forall₂_map_left_iff, List.forall₂_map_right_iff]
    refine h.imp fun e e' he => ?_
    obtain ⟨s, hgives, -⟩ := he
    rw [hgives.same]
  have hany : entries.any (·.location.isPayload) = entries'.any (·.location.isPayload) := by
    have hmapped := congrArg (fun l => l.any fun face => face.2.isPayload) hfaces
    rw [List.any_map, List.any_map] at hmapped
    exact hmapped
  have hdeclared : (entries.filter (·.location == .header)).map ParameterEntry.name =
      (entries'.filter (·.location == .header)).map ParameterEntry.name := by
    have hmapped := congrArg (fun l => (l.filter fun face => face.2 == .header).map Prod.fst) hfaces
    rw [List.filter_map, List.filter_map, List.map_map, List.map_map] at hmapped
    exact hmapped
  rw [requestHeaders, requestHeaders, hany, hdeclared]

/-- The descriptors of one declaration under two mappers: they differ in the types of parameters at
most, and in these only where the winning source states its type in place. -/
structure OperationDescriptor.AgreesButTypes (document : Document) (settings : Settings)
    (m m' : TypeMapper) (d : Declaration) (op op' : OperationDescriptor) : Prop where
  rest : op' = { op with parameters := op'.parameters }
  parameters : List.Forall₂
    (EntriesAlike document settings m m' op.operationId (entrySources d.item.parameters
      (Context.authHeaders ⟨document, settings, m⟩ d.operation).value d.operation.parameters))
    op.parameters op'.parameters

/-- The other parts of a descriptor do not look at types of parameters. -/
theorem describeOperation_typed_alike (d : Declaration) (id : String) (method : HttpMethod) :
    (describeOperation ⟨document, settings, m⟩ d id method).Alike
      (OperationDescriptor.AgreesButTypes document settings m m' d)
      (describeOperation ⟨document, settings, m'⟩ d id method) := by
  -- authentication and responses are resolved without a look at the mapper
  have hauth : (Context.authHeaders ⟨document, settings, m⟩ d.operation).Alike
      (fun auth auth' => auth = (Context.authHeaders ⟨document, settings, m⟩ d.operation).value ∧
        auth' = auth) (Context.authHeaders ⟨document, settings, m'⟩ d.operation) :=
    ⟨⟨rfl, rfl⟩, rfl⟩
  refine hauth.bind ?_
  rintro auth - ⟨rfl, rfl⟩
  refine (collectParameters_alike _ _ _ _).bind fun entries entries' hentries => ?_
  refine (Report.Alike.of_eq rfl).bind_eq fun responses => ?_
  rw [requestHeaders_alike method _ hentries, hentries.length_eq]
  exact (Report.Alike.refl _).bind_eq fun _ => .pure ⟨rfl, hentries⟩

theorem buildOperation_typed_alike (d : Declaration) :
    (buildOperation ⟨document, settings, m⟩ d).Alike
      (Option.Rel (OperationDescriptor.AgreesButTypes document settings m m' d))
      (buildOperation ⟨document, settings, m'⟩ d) := by
  refine buildOperation_described_alike ?_ fun id method _ =>
    describeOperation_typed_alike d id method
  intro op op' imports h
  refine ⟨?_, h.parameters⟩
  exact congrArg (fun op : OperationDescriptor => { op with imports }) h.rest

end Steps

/-! ## Runs -/

/-- The descriptors are built from one declaration of the document under the two mappers, and agree
but for types stated in place. -/
def OperationDescriptor.TypedAlike (document : Document) (settings : Settings) (m m' : TypeMapper)
    (op op' : OperationDescriptor) : Prop :=
  ∃ d ∈ document.declarations,
    (buildOperation ⟨document, settings, m⟩ d).value = some op ∧
    (buildOperation ⟨document, settings, m'⟩ d).value = some op' ∧
    op.AgreesButTypes document settings m m' d op'

/-- What is handed on differs in the types of parameters alone. -/
structure Generation.AgreesButTypes (document : Document) (settings : Settings)
    (m m' : TypeMapper) (g g' : Generation) : Prop where
  models : g.models = g'.models
  imports : g.imports = g'.imports
  diagnostics : g.diagnostics = g'.diagnostics
  operations : List.Forall₂ (OperationDescriptor.TypedAlike document settings m m')
    g.operations g'.operations

/-- The same, with the declaration that the two descriptors are built from. -/
theorem buildOperation_built_alike {document : Document} {settings : Settings}
    {m m' : TypeMapper} {d : Declaration} (hd : d ∈ document.declarations) :
    (buildOperation ⟨document, settings, m⟩ d).Alike
      (Option.Rel (OperationDescriptor.TypedAlike document settings m m'))
      (buildOperation ⟨document, settings, m'⟩ d) := by
  have halike : (buildOperation ⟨document, settings, m⟩ d).Alike
      (Option.Rel (OperationDescriptor.AgreesButTypes document settings m m' d))
      (buildOperation ⟨document, settings, m'⟩ d) := buildOperation_typed_alike d
  refine ⟨?_, halike.findings⟩
  have hvalue := halike.value
  -- both are built or neither is, since their values are related
  cases hop : (buildOperation ⟨document, settings, m⟩ d).value with
  | none =>
    rw [hop] at hvalue
    cases hop' : (buildOperation ⟨document, settings, m'⟩ d).value with
    | none => exact .none
    | some op' => rw [hop'] at hvalue; cases hvalue
  | some op =>
    rw [hop] at hvalue
    cases hop' : (buildOperation ⟨document, settings, m'⟩ d).value with
    | none => rw [hop'] at hvalue; cases hvalue
    | some op' =>
      rw [hop'] at hvalue
      cases hvalue with
      | some h => exact .some ⟨d, hd, hop, hop', h⟩

/-- Runs under two mappers are both refused, or agree on all but the types of parameters. Two such
types differ only if the entry that won the merge states its type in place, and are then what the
mappers make of that. -/
theorem mapper_confined (document : Document) (settings : Settings) (m m' : TypeMapper) :
    EndAlike (Generation.AgreesButTypes document settings m m')
      (generate ⟨document, settings, m⟩) (generate ⟨document, settings, m'⟩) := by
  refine generate_alike_declared rfl rfl ?_ (fun d hd => buildOperation_built_alike hd) ?_
  · rintro op op' ⟨d, -, -, -, h⟩
    have hid := congrArg OperationDescriptor.operationId h.rest
    have himports := congrArg OperationDescriptor.imports h.rest
    exact ⟨hid.symm, himports.symm⟩
  · intro h
    refine ⟨?_, h.imports, h.diagnostics, h.operations⟩
    rw [models_generateAll, models_generateAll]

/-- A document with a parameter that states its type and one that refers to a definition. -/
def filtered : Document where
  swagger := some "2.0"
  definitions := Keyed.ofList [("Order", .object [])]
  paths := Keyed.ofList [("/orders", { operations := Keyed.ofList [
    ("post", {
      operationId := some "create"
      parameters := [
        { name := some "ids", type := some "array", items := some ⟨some "integer"⟩ },
        { name := some "order", reference := some "#/definitions/Order" }] })] })]

example : [TypeMapper.standard, TypeMapper.ofMap id].map (fun mapper =>
    (generateAll ⟨filtered, {}, mapper⟩).value.operations.flatMap fun op =>
      op.parameters.map ParameterEntry.type) =
    [["ReadonlyArray<number>", "Order"], ["ReadonlyArray<integer>", "Order"]] := by
  decide +kernel

end ServiceContract
