import ServiceContract.Proofs.Atomicity
import ServiceContract.Proofs.Building

/-!
# Calls that share what they collect

A caller may hand one set of imports and one list of diagnostics on from call to call. A call then
runs on all that earlier calls left there and could look at it. The steps are written here in that
form, as steps on what was `Collected`, and each is shown to follow its report: it gives the value
of the report and adds the findings, whatever was collected before. So a call among others gives
and adds what it does alone, and this holds for any number of calls in any order.

Main results:

* `Follows.bind`, `Follows.mapM`     — steps that follow reports may be sequenced.
* `Follows.withOwnImports`           — imports of one's own take no part in those of the caller.
* `Call.collect_follows`             — each call follows the report of what it asks for.
* `calls_only_add`                   — a sequence of calls gives and adds what its calls do alone.
-/

namespace ServiceContract

/-! ## Steps on what was collected -/

/-- Nothing was collected yet. -/
def Collected.nothing : Collected := ⟨ImportSet.empty, []⟩

/-- A step on what was collected so far, which it may read, write and replace. -/
abbrev Collecting (α : Type) := StateM Collected α

namespace Collecting

variable {α β : Type}

/-- Appends a diagnostic to those there are. -/
def warn (scope : String) (issue : Issue) : Collecting Unit :=
  modify fun held => { held with diagnostics := held.diagnostics ++ [⟨scope, issue⟩] }

/-- Inserts a model into the imports there are. -/
def mention (name : String) : Collecting Unit :=
  modify fun held => { held with imports := held.imports.insert name }

/-- Leaves something out and says why. -/
def skip (scope : String) (issue : Issue) : Collecting (Option α) := do
  warn scope issue
  pure none

/-- Runs a step on imports of its own. They become the descriptor's, and the caller gets back those
it had. -/
def withOwnImports (step : Collecting OperationDescriptor) : Collecting OperationDescriptor := do
  let caller ← get
  set { caller with imports := ImportSet.empty }
  let op ← step
  let own ← get
  set { own with imports := caller.imports }
  pure { op with imports := own.imports }

/-! ## Following a report -/

/-- The step gives the value of the report and adds its findings to what was collected before,
whatever that is. -/
def Follows (step : Collecting α) (r : Report α) : Prop :=
  ∀ held, step.run held = (r.value, held.add r.findings)

namespace Follows

theorem pure (a : α) : Follows (Pure.pure a) (Pure.pure a) := by
  intro held
  rw [StateT.run_pure, Report.value_pure, Report.findings_pure, Collected.add_silent rfl rfl]
  rfl

/-- Steps that follow reports follow them in a row. The second step is asked to do so for every
value, since only the report says which one it gets. -/
theorem bind {step : Collecting α} {r : Report α} {next : α → Collecting β} {rest : α → Report β}
    (h : Follows step r) (hnext : ∀ a, Follows (next a) (rest a)) :
    Follows (step >>= next) (r >>= rest) := by
  intro held
  rw [StateT.run_bind, h held, Report.value_bind, Report.findings_bind, Collected.add_append]
  exact hnext r.value (held.add r.findings)

/-- What only goes to the log leaves no trace in what is collected. -/
theorem after_silent {r : Report α} {step : Collecting β} {next : α → Report β}
    (hmodels : r.findings.models = []) (hdiagnostics : r.findings.diagnostics = [])
    (h : Follows step (next r.value)) : Follows step (r >>= next) := by
  intro held
  rw [h held, Report.value_bind, Report.findings_bind, Collected.add_append,
    Collected.add_silent hmodels hdiagnostics]

theorem warn (scope : String) (issue : Issue) :
    Follows (Collecting.warn scope issue) (Report.warn scope issue) := fun _ => rfl

theorem mention (name : String) : Follows (Collecting.mention name) (Report.mention name) := by
  intro held
  rw [Report.findings_mention, Collected.add, List.append_nil]
  rfl

theorem skip (scope : String) (issue : Issue) :
    Follows (Collecting.skip scope issue : Collecting (Option α)) (Report.skip scope issue) :=
  (warn scope issue).bind fun _ => pure none

theorem map {step : Collecting α} {r : Report α} (f : α → β) (h : Follows step r) :
    Follows (f <$> step) (f <$> r) := by
  rw [← bind_pure_comp, ← bind_pure_comp]
  exact h.bind fun a => pure (f a)

/-- Items are gone through in order, each on what the items before it left. -/
theorem mapM {step : α → Collecting β} {r : α → Report β} (h : ∀ a, Follows (step a) (r a))
    (items : List α) : Follows (items.mapM step) (Report.each r items) := by
  induction items with
  | nil => exact pure []
  | cons item rest ih =>
    rw [List.mapM_cons]
    exact (h item).bind fun value => ih.bind fun values => pure (value :: values)

/-- The imports of a step that has its own are the models it mentions, and its caller sees the
diagnostics alone. -/
theorem withOwnImports {step : Collecting OperationDescriptor} {r : Report OperationDescriptor}
    (h : Follows step r) : Follows (Collecting.withOwnImports step) r.collectImports := by
  intro held
  -- it starts without imports, so those it ends with are what it mentions
  have hstep := h { held with imports := ImportSet.empty }
  simp only [Collecting.withOwnImports, StateT.run_bind, StateT.run_get, StateT.run_set,
    pure_bind, hstep]
  rfl

end Follows

/-! ## The steps -/

section Steps

variable (ctx : Context) (scope : String)

/-- The output type of the shared parameter `name`. -/
def sharedType (name : String) (shared : Parameter) : Collecting (Option String) :=
  match shared.inlineType with
  | some type => pure (some (ctx.mapper.inlineType type shared.itemType))
  | none =>
    match ctx.sharedDefinition? shared with
    | some definition => do
      mention definition
      pure (some definition)
    | none => skip scope (.untypedSharedParameter name)

/-- The entry of a parameter that states its type in place. -/
def inline (p : Parameter) (type : String) : Collecting (Option ParameterEntry) :=
  match p.name with
  | none => skip scope .unnamedParameter
  | some name => pure (some
      { name
        required := p.required
        type := ctx.mapper.inlineType type p.itemType
        location := p.location.getD .other })

/-- The entry of a parameter that refers to the definition `name`. -/
def definition (p : Parameter) (name : String) : Collecting (Option ParameterEntry) :=
  if ctx.document.defines name then do
    mention name
    pure (some
      { name := p.name.getD (Text.uncapitalize name)
        required := p.required
        type := name
        location := p.location.getD .body })
  else skip scope (.unknownDefinition p.label name)

/-- The entry of a parameter that refers to the shared parameter `name`. -/
def shared (p : Parameter) (name : String) : Collecting (Option ParameterEntry) :=
  match ctx.document.sharedParameter? name with
  | none => skip scope (.unknownSharedParameter name)
  | some shared => do
    let some type ← sharedType ctx scope name shared | pure none
    pure (some
      { name := (p.name <|> shared.name).getD (Text.uncapitalize name)
        required := shared.required
        type
        location := shared.location.getD .other })

/-- The entry of a declared parameter. -/
def parameter (p : Parameter) : Collecting (Option ParameterEntry) :=
  match p.inlineType with
  | some type => inline ctx scope p type
  | none =>
    match p.pointer with
    | none => skip scope (.untypedParameter p.label)
    | some pointer =>
      match Reference.ofPointer? pointer with
      | none => skip scope (.unresolvableReference p.label pointer)
      | some ⟨.definition, name⟩ => definition ctx scope p name
      | some ⟨.parameter, name⟩ => shared ctx scope p name
      | some ⟨.other, _⟩ => skip scope (.foreignReference p.label pointer)

/-- The table with the entries in it, each under its name. -/
def putEntries (table : Keyed ParameterEntry) (entries : List ParameterEntry) :
    Keyed ParameterEntry :=
  entries.foldl (fun table entry => table.insert entry.name entry) table

/-- Puts the entry of a parameter into the table, if it has one. -/
def putParameter (table : Keyed ParameterEntry) (p : Parameter) :
    Collecting (Keyed ParameterEntry) := do
  match ← parameter ctx scope p with
  | some entry => pure (table.insert entry.name entry)
  | none => pure table

/-- The entries of an operation's parameters, put into one table: those of its path, then
authentication, then its own. -/
def parameters (path : List Parameter) (auth : List AuthHeader) (own : List Parameter) :
    Collecting (List ParameterEntry) := do
  let table ← path.foldlM (putParameter ctx scope) Keyed.empty
  let table := putEntries table (auth.map AuthHeader.entry)
  let table ← own.foldlM (putParameter ctx scope) table
  pure table.values

/-- The definition that a response's schema refers to. -/
def model (status : String) (response : Response) : Collecting (Option String) :=
  match response.schema.bind Schema.reference with
  | none => pure none
  | some pointer =>
    match Reference.ofPointer? pointer with
    | some ⟨.definition, name⟩ =>
      if ctx.document.defines name then pure (some name)
      else skip scope (.unknownResponseDefinition status name)
    | _ => skip scope (.unusableResponseReference status pointer)

/-- The entry of a declared response. -/
def response (declared : String × Response) : Collecting ResponseEntry := do
  match ← model ctx scope declared.1 declared.2 with
  | some name =>
    mention name
    pure ⟨declared.1, name⟩
  | none => pure ⟨declared.1, ctx.settings.defaultType declared.1⟩

/-- The entries of all declared responses. -/
def responses (declared : Keyed Response) : Collecting (List ResponseEntry) :=
  declared.entries.mapM (response ctx scope)

end Steps

/-- The descriptor of an operation with an id and a supported method. Authentication is resolved
apart from what is collected. -/
def describe (ctx : Context) (d : Declaration) (id : String) (method : HttpMethod) :
    Collecting OperationDescriptor := do
  let auth := (ctx.authHeaders d.operation).value
  let parameters ← parameters ctx id d.item.parameters auth d.operation.parameters
  let responses ← responses ctx id d.operation.responses
  pure
    { operationId := id
      method
      path := d.path
      parameters
      headers := requestHeaders method auth parameters
      responses
      decoders := ctx.decodersFor id responses
      imports := ImportSet.empty }

/-- The descriptor of a declared operation, which has imports of its own. -/
def operation (ctx : Context) (d : Declaration) : Collecting (Option OperationDescriptor) :=
  match d.operation.operationId with
  | none => skip (operationLabel d.method d.path) .noOperationId
  | some id =>
    match HttpMethod.ofName? d.method with
    | none => skip id (.unsupportedMethod d.method d.path)
    | some method => some <$> withOwnImports (describe ctx d id method)

/-! ## Each step follows its report -/

section Following

variable (ctx : Context) (scope : String)

theorem sharedType_follows (name : String) (shared : Parameter) :
    Follows (sharedType ctx scope name shared) (resolveSharedType ctx scope name shared) := by
  unfold sharedType resolveSharedType
  cases shared.inlineType with
  | some type => exact .pure _
  | none =>
    cases ctx.sharedDefinition? shared with
    | some definition => exact (Follows.mention definition).bind fun _ => .pure _
    | none => exact .skip _ _

theorem inline_follows (p : Parameter) (type : String) :
    Follows (inline ctx scope p type) (resolveInline ctx scope p type) := by
  unfold inline resolveInline
  cases p.name with
  | none => exact .skip _ _
  | some name => exact .pure _

theorem definition_follows (p : Parameter) (name : String) :
    Follows (definition ctx scope p name) (resolveDefinition ctx scope p p.label name) := by
  unfold definition resolveDefinition
  split
  · exact (Follows.mention name).bind fun _ => .pure _
  · exact .skip _ _

/-- A shared parameter that is skipped has been reported on by the look-up of its type, so nothing
is added then. -/
theorem shared_follows (p : Parameter) (name : String) :
    Follows (shared ctx scope p name) (resolveShared ctx scope p name) := by
  unfold shared resolveShared
  cases ctx.document.sharedParameter? name with
  | none => exact .skip _ _
  | some target =>
    refine (sharedType_follows ctx scope name target).bind fun type => ?_
    cases type with
    | none => exact .pure none
    | some type => exact .pure _

/-- Resolving a parameter follows its report in each of the cases it distinguishes. In none of them
does it look at what was collected. -/
theorem parameter_follows (p : Parameter) :
    Follows (parameter ctx scope p) (resolveParameter ctx scope p) := by
  unfold parameter resolveParameter
  cases p.inlineType with
  | some type => exact inline_follows ctx scope p type
  | none =>
    cases p.pointer with
    | none => exact .skip _ _
    | some pointer =>
      dsimp only
      cases Reference.ofPointer? pointer with
      | none => exact .skip _ _
      | some reference =>
        -- the section that the pointer names decides which resolver is asked
        obtain ⟨category, name⟩ := reference
        cases category with
        | definition => exact definition_follows ctx scope p name
        | parameter => exact shared_follows ctx scope p name
        | other => exact .skip _ _

theorem putEntries_append (table : Keyed ParameterEntry) (a b : List ParameterEntry) :
    putEntries table (a ++ b) = putEntries (putEntries table a) b := List.foldl_append

/-- A merge is the table that the entries are put into one after the other. -/
theorem mergeEntries_eq (entries : List ParameterEntry) :
    mergeEntries entries = (putEntries Keyed.empty entries).values := by
  rw [mergeEntries, Keyed.ofList, List.foldl_map]
  rfl

/-- A parameter without an entry leaves the table as it is, and is reported on all the same. -/
theorem putParameter_follows (table : Keyed ParameterEntry) (p : Parameter) :
    Follows (putParameter ctx scope table p)
      (resolveParameter ctx scope p >>= fun entry => pure (putEntries table entry.toList)) := by
  refine (parameter_follows ctx scope p).bind fun entry => ?_
  cases entry with
  | none => exact .pure table
  | some entry => exact .pure (table.insert entry.name entry)

/-- Putting one parameter after the other into the table puts what is kept of them. -/
theorem foldlM_putParameter_follows (items : List Parameter) (table : Keyed ParameterEntry) :
    Follows (items.foldlM (putParameter ctx scope) table)
      (Report.keep (resolveParameter ctx scope) items >>= fun entries =>
        pure (putEntries table entries)) := by
  induction items generalizing table with
  | nil => exact .pure table
  | cons p rest ih =>
    -- one report that keeps all entries is the entry of the first, then those of the rest
    have hkeep : (Report.keep (resolveParameter ctx scope) (p :: rest) >>= fun entries =>
          pure (putEntries table entries)) =
        (resolveParameter ctx scope p >>= fun entry => pure (putEntries table entry.toList)) >>=
          fun table => Report.keep (resolveParameter ctx scope) rest >>= fun entries =>
            pure (putEntries table entries) := by
      simp only [Report.keep, bind_assoc, pure_bind, putEntries_append]
    rw [List.foldlM_cons, hkeep]
    exact (putParameter_follows ctx scope table p).bind ih

/-- The table is filled while parameters are resolved, and a report merges what was kept in the end.
Both give the same entries, since the table never decides what is resolved. -/
theorem parameters_follows (path : List Parameter) (auth : List AuthHeader)
    (own : List Parameter) :
    Follows (parameters ctx scope path auth own)
      (collectParameters ctx scope path auth own) := by
  have hcollect : collectParameters ctx scope path auth own =
      (Report.keep (resolveParameter ctx scope) path >>= fun entries =>
          pure (putEntries Keyed.empty entries)) >>= fun table =>
        (Report.keep (resolveParameter ctx scope) own >>= fun entries =>
            pure (putEntries (putEntries table (auth.map AuthHeader.entry)) entries)) >>=
          fun table => pure table.values := by
    simp only [collectParameters, bind_assoc, pure_bind, mergeEntries_eq, putEntries_append]
  rw [hcollect]
  -- the path's parameters fill an empty table; the authentication headers and then the operation's
  -- own go into what that left
  exact (foldlM_putParameter_follows ctx scope path _).bind fun _ =>
    (foldlM_putParameter_follows ctx scope own _).bind fun _ => .pure _

/-- Resolving the model of a response follows its report. Only a pointer to a definition that the
document has gives one; the other pointers are reported on. -/
theorem model_follows (status : String) (response : Response) :
    Follows (model ctx scope status response) (resolveModel ctx scope status response) := by
  unfold model resolveModel
  cases response.schema.bind Schema.reference with
  | none => exact .pure none
  | some pointer =>
    dsimp only
    cases Reference.ofPointer? pointer with
    | none => exact .skip _ _
    | some reference =>
      obtain ⟨category, name⟩ := reference
      cases category with
      | parameter => exact .skip _ _
      | other => exact .skip _ _
      | definition =>
        dsimp only
        split
        · exact .pure _
        · exact .skip _ _

theorem response_follows (declared : String × Response) :
    Follows (response ctx scope declared) (resolveResponse ctx scope declared) := by
  refine (model_follows ctx scope declared.1 declared.2).bind fun type => ?_
  cases type with
  | some name => exact (Follows.mention name).bind fun _ => .pure _
  | none => exact .pure _

theorem responses_follows (declared : Keyed Response) :
    Follows (responses ctx scope declared) (resolveResponses ctx scope declared) :=
  .mapM (response_follows ctx scope) declared.entries

theorem describe_follows (d : Declaration) (id : String) (method : HttpMethod) :
    Follows (describe ctx d id method) (describeOperation ctx d id method) := by
  -- authentication and the closing line go to the log alone
  refine .after_silent (models_authHeaders ctx _) (diagnostics_authHeaders ctx _) ?_
  refine (parameters_follows ctx id _ _ _).bind fun parameters => ?_
  refine (responses_follows ctx id _).bind fun responses => ?_
  exact .after_silent rfl rfl (.pure _)

/-- An operation is built on imports of its own, so what its caller has imported plays no part. -/
theorem operation_follows (d : Declaration) :
    Follows (operation ctx d) (buildOperation ctx d) := by
  unfold operation buildOperation
  cases d.operation.operationId with
  | none => exact .skip _ _
  | some id =>
    dsimp only
    cases HttpMethod.ofName? d.method with
    | none => exact .skip _ _
    | some method => exact (describe_follows ctx d id method).withOwnImports.map some

end Following

end Collecting

/-! ## Sequences of calls -/

/-- What a caller may call in turn with the same imports and diagnostics. -/
inductive Call where
  | parameter (ctx : Context) (scope : String) (p : Parameter)
  | parameters (ctx : Context) (scope : String) (path : List Parameter) (auth : List AuthHeader)
    (own : List Parameter)
  | responses (ctx : Context) (scope : String) (declared : Keyed Response)
  | operation (ctx : Context) (d : Declaration)

/-- What a call gives back. -/
inductive Answer where
  | parameter (entry : Option ParameterEntry)
  | parameters (entries : List ParameterEntry)
  | responses (entries : List ResponseEntry)
  | operation (built : Option OperationDescriptor)

namespace Call

/-- The call as a step on what was collected before it. -/
def collect : Call → Collecting Answer
  | parameter ctx scope p => .parameter <$> Collecting.parameter ctx scope p
  | parameters ctx scope path auth own =>
    .parameters <$> Collecting.parameters ctx scope path auth own
  | responses ctx scope declared => .responses <$> Collecting.responses ctx scope declared
  | operation ctx d => .operation <$> Collecting.operation ctx d

/-- What resolving and building report for the call. -/
def report : Call → Report Answer
  | parameter ctx scope p => .parameter <$> resolveParameter ctx scope p
  | parameters ctx scope path auth own => .parameters <$> collectParameters ctx scope path auth own
  | responses ctx scope declared => .responses <$> resolveResponses ctx scope declared
  | operation ctx d => .operation <$> buildOperation ctx d

/-- Each call follows the report of what it asks for. -/
theorem collect_follows (call : Call) : Collecting.Follows call.collect call.report := by
  cases call with
  | parameter ctx scope p => exact (Collecting.parameter_follows ctx scope p).map _
  | parameters ctx scope path auth own =>
    exact (Collecting.parameters_follows ctx scope path auth own).map _
  | responses ctx scope declared => exact (Collecting.responses_follows ctx scope declared).map _
  | operation ctx d => exact (Collecting.operation_follows ctx d).map _

/-- The calls one after the other, each on what the earlier ones left. -/
def collectAll (calls : List Call) : Collecting (List Answer) := calls.mapM collect

theorem collectAll_follows (calls : List Call) :
    Collecting.Follows (collectAll calls) (Report.each report calls) := .mapM collect_follows calls

/-- What the call gives and collects where nothing was collected before it. -/
def alone (call : Call) : Answer × Collected := call.collect.run .nothing

/-- Where nothing was collected before, what was collected after is what the call found. -/
theorem alone_eq (call : Call) :
    call.alone = (call.report.value,
      ⟨ImportSet.ofList call.report.findings.models, call.report.findings.diagnostics⟩) :=
  call.collect_follows .nothing

/-- The call gives what it gives alone, and to what was collected before it adds what it collects
alone. -/
structure OnlyAdds (call : Call) (before : Collected) : Prop where
  answer : (call.collect.run before).1 = call.alone.1
  diagnostics : (call.collect.run before).2.diagnostics =
    before.diagnostics ++ call.alone.2.diagnostics
  imports : (call.collect.run before).2.imports = before.imports.union call.alone.2.imports

theorem onlyAdds (call : Call) (before : Collected) : call.OnlyAdds before where
  answer := by rw [call.collect_follows before, alone_eq]
  diagnostics := by
    rw [call.collect_follows before, alone_eq]
    rfl
  imports := by
    rw [call.collect_follows before, alone_eq, ImportSet.union_ofList]
    rfl

/-- A built operation has its imports in its descriptor, and those of the caller are as they
were. -/
theorem imports_collect_operation (ctx : Context) (d : Declaration) (held : Collected) :
    ((operation ctx d).collect.run held).2.imports = held.imports := by
  have hmodels : (operation ctx d).report.findings.models = [] := by
    rw [report, Report.findings_map, models_buildOperation]
  rw [(operation ctx d).collect_follows held, Collected.add, hmodels]
  rfl

end Call

/-- How calls run that share their imports and diagnostics, with what was collected `before`. -/
structure SharedRun (calls : List Call) (before : Collected) : Prop where
  /-- Each call only adds to what the earlier ones left. -/
  each : ∀ earlier call later, calls = earlier ++ call :: later →
    call.OnlyAdds ((Call.collectAll earlier).run before).2
  answers : ((Call.collectAll calls).run before).1 = calls.map fun call => call.alone.1
  diagnostics : ((Call.collectAll calls).run before).2.diagnostics =
    before.diagnostics ++ calls.flatMap fun call => call.alone.2.diagnostics
  imports : ∀ n, n ∈ ((Call.collectAll calls).run before).2.imports.names ↔
    n ∈ before.imports.names ∨ ∃ call ∈ calls, n ∈ call.alone.2.imports.names
  /-- What a call does alone is what resolving and building report. -/
  reported : ∀ call ∈ calls, call.alone = (call.report.value,
    ⟨ImportSet.ofList call.report.findings.models, call.report.findings.diagnostics⟩)
  /-- An operation is built without a change to the imports of the caller. -/
  untouched : ∀ ctx d, Call.operation ctx d ∈ calls → ∀ held,
    ((Call.operation ctx d).collect.run held).2.imports = held.imports

/-- Whatever was collected before, and whichever calls share it in whatever order: each gives and
adds what it does alone, the diagnostics follow one another, and the imports are united. Nothing is
asked of the calls. They may have different contexts and scopes, and one may be made twice. -/
theorem calls_only_add (calls : List Call) (before : Collected) : SharedRun calls before where
  each _ call _ _ := call.onlyAdds _
  answers := by
    rw [Call.collectAll_follows calls before, Report.value_each]
    exact List.map_congr_left fun call _ => by rw [call.alone_eq]
  diagnostics := by
    rw [Call.collectAll_follows calls before, Collected.add, Report.findings_each,
      Findings.diagnostics_concat, List.flatMap_map]
    simp only [Call.alone_eq]
  imports n := by
    rw [Call.collectAll_follows calls before, Collected.add, Report.findings_each,
      Findings.models_concat, List.flatMap_map, ImportSet.mem_insertAll, List.mem_flatMap]
    simp only [Call.alone_eq, ImportSet.mem_ofList]
  reported call _ := call.alone_eq
  untouched ctx d _ held := Call.imports_collect_operation ctx d held

end ServiceContract
