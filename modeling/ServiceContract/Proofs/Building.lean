import ServiceContract.Build

/-!
# What building a declaration gives

A declaration is built if it has an id and a supported method. `Describes` says what its descriptor
then is, field by field, so that nothing else has to look into the builder. Building finds much to
report, but never that an operation is left out: that is said only of a declaration that is not
built.

Main results:

* `map_operationId_buildOperation` — what is built carries the id its declaration claims.
* `describes_of_build`             — a built descriptor describes its declaration.
* `describeOperation_only`         — describing an operation does not report it as left out.
* `buildOperation_of_parts`        — what is built depends on neither the paths nor the diagnostics
  of the document.
-/

namespace ServiceContract

/-! ## Claims -/

/-- The id under which a declaration can be built: its own, if its method is supported. -/
def Declaration.claim? (d : Declaration) : Option String :=
  if d.method ∈ ["get", "post", "put", "delete"] then d.operation.operationId else none

/-- The supported methods by name. -/
theorem names_all : HttpMethod.all.map HttpMethod.name = ["get", "post", "put", "delete"] := rfl

/-- A declaration claims an id exactly if it has one and the builder supports its method. -/
theorem claim?_eq_some {d : Declaration} {id : String} :
    d.claim? = some id ↔
      d.operation.operationId = some id ∧ ∃ method, HttpMethod.ofName? d.method = some method := by
  rw [HttpMethod.exists_ofName?, names_all, Declaration.claim?]
  split
  · next h => simp [h]
  · next h => simp [h]

/-! ## Issues that leave an operation out -/

/-- Whether the issue is that an operation gets no descriptor. -/
def Issue.omitsOperation : Issue → Bool
  | .noOperationId | .unsupportedMethod _ _ | .duplicateOperationId _ _ => true
  | _ => false

/-- The issue leaves the operation in: it is about something else. -/
def Issue.KeepsOperation (issue : Issue) : Prop := issue.omitsOperation = false

/-- Nothing in the report says that an operation is left out. -/
abbrev Report.LeavesNoneOut {α : Type} (r : Report α) : Prop :=
  r.Only fun issue => issue.omitsOperation = false

section Resolving

variable (ctx : Context) (scope : String)

theorem resolveSharedType_made (name : String) (shared : Parameter) :
    (resolveSharedType ctx scope name shared).MadeOf Issue.KeepsOperation := by
  unfold resolveSharedType
  split
  · exact Report.MadeOf.pure _
  · split
    · exact Report.MadeOf.bind (Report.MadeOf.mention _) fun _ => Report.MadeOf.pure _
    · exact Report.MadeOf.skip rfl

theorem resolveInline_made (p : Parameter) (type : String) :
    (resolveInline ctx scope p type).MadeOf Issue.KeepsOperation := by
  unfold resolveInline
  split
  · exact Report.MadeOf.skip rfl
  · exact Report.MadeOf.pure _

theorem resolveDefinition_made (p : Parameter) (label name : String) :
    (resolveDefinition ctx scope p label name).MadeOf Issue.KeepsOperation := by
  unfold resolveDefinition
  split
  · exact Report.MadeOf.bind (Report.MadeOf.mention _) fun _ => Report.MadeOf.pure _
  · exact Report.MadeOf.skip rfl

theorem resolveShared_made (p : Parameter) (name : String) :
    (resolveShared ctx scope p name).MadeOf Issue.KeepsOperation := by
  unfold resolveShared
  split
  · exact Report.MadeOf.skip rfl
  · exact Report.MadeOf.bind (resolveSharedType_made ctx scope _ _) fun _ => Report.MadeOf.pure _

/-- Resolving a parameter warns of what is wrong with the parameter, never that the operation is
left out. The typings of a parameter are gone through one by one. -/
theorem resolveParameter_made (p : Parameter) :
    (resolveParameter ctx scope p).MadeOf Issue.KeepsOperation := by
  cases p.typing with
  | stated type states =>
    rw [resolveParameter_of_stated states]
    exact resolveInline_made ctx scope p type
  | definition name untyped reference =>
    rw [resolveParameter_of_definition untyped reference]
    exact resolveDefinition_made ctx scope p _ name
  | parameter key untyped reference =>
    rw [resolveParameter_of_parameter untyped reference]
    exact resolveShared_made ctx scope p key
  | nothing untyped foreign =>
    obtain ⟨issue, hissue, hskip⟩ := exists_skip_of_nothing untyped foreign
    rw [hskip]
    rcases hissue with rfl | ⟨pointer, rfl | rfl⟩
    · exact Report.MadeOf.skip rfl
    · exact Report.MadeOf.skip rfl
    · exact Report.MadeOf.skip rfl

theorem collectParameters_made (path : List Parameter) (auth : List AuthHeader)
    (own : List Parameter) :
    (collectParameters ctx scope path auth own).MadeOf Issue.KeepsOperation := by
  refine Report.MadeOf.bind ?_ fun _ => Report.MadeOf.bind ?_ fun _ => Report.MadeOf.pure _
  · exact Report.MadeOf.keep fun p _ => resolveParameter_made ctx scope p
  · exact Report.MadeOf.keep fun p _ => resolveParameter_made ctx scope p

theorem resolveModel_made (status : String) (response : Response) :
    (resolveModel ctx scope status response).MadeOf Issue.KeepsOperation := by
  unfold resolveModel
  split
  · exact Report.MadeOf.pure _
  · split
    · split
      · exact Report.MadeOf.pure _
      · exact Report.MadeOf.skip rfl
    · exact Report.MadeOf.skip rfl

/-- Responses are never left out: one that cannot be typed gets a default. -/
theorem resolveResponses_made (responses : Keyed Response) :
    (resolveResponses ctx scope responses).MadeOf Issue.KeepsOperation := by
  refine Report.MadeOf.each fun declared _ => ?_
  refine Report.MadeOf.bind (resolveModel_made ctx scope _ _) fun model => ?_
  cases model with
  | none => exact Report.MadeOf.pure _
  | some name => exact Report.MadeOf.bind (Report.MadeOf.mention _) fun _ => Report.MadeOf.pure _

end Resolving

section Authentication

variable {p : Issue → Prop}

theorem findScheme_made (schemes : Keyed SecurityScheme) (name : String) :
    (findScheme schemes name).MadeOf p := by
  unfold findScheme
  split
  · exact Report.MadeOf.pure _
  · exact Report.MadeOf.bind (Report.MadeOf.log _ (by decide)) fun _ => Report.MadeOf.pure _

/-- Authentication warns of no issue, whatever is said of issues. -/
theorem authHeaders_made (ctx : Context) (operation : Operation) :
    (ctx.authHeaders operation).MadeOf p := by
  unfold Context.authHeaders resolveAuthHeaders
  split
  · refine Report.MadeOf.bind ?_ fun _ => Report.MadeOf.pure _
    exact Report.MadeOf.keep fun name _ => findScheme_made _ name
  · exact Report.MadeOf.bind (Report.MadeOf.pure _) fun _ => Report.MadeOf.pure _

/-- Authentication adds nothing to the diagnostics of an operation. -/
theorem diagnostics_authHeaders (ctx : Context) (operation : Operation) :
    (ctx.authHeaders operation).findings.diagnostics = [] :=
  List.eq_nil_iff_forall_not_mem.mpr (authHeaders_made (p := fun _ => False) ctx operation).only

end Authentication

/-- An operation with an id and a method is described whatever is wrong with its parts. -/
theorem describeOperation_made (ctx : Context) (d : Declaration) (id : String)
    (method : HttpMethod) : (describeOperation ctx d id method).MadeOf Issue.KeepsOperation := by
  refine Report.MadeOf.bind (authHeaders_made ctx _) fun auth => ?_
  refine Report.MadeOf.bind (collectParameters_made ctx id _ auth _) fun parameters => ?_
  refine Report.MadeOf.bind (resolveResponses_made ctx id _) fun responses => ?_
  exact Report.MadeOf.bind (Report.MadeOf.log _ (by decide)) fun _ => Report.MadeOf.pure _

/-- Describing an operation does not report it as left out. -/
theorem describeOperation_only (ctx : Context) (d : Declaration) (id : String)
    (method : HttpMethod) : (describeOperation ctx d id method).LeavesNoneOut :=
  (describeOperation_made ctx d id method).only

/-! ## The descriptor -/

/-- The decoders that the settings ask for. -/
def Context.decodersFor (ctx : Context) (id : String) (responses : List ResponseEntry) :
    Option OperationDecoders :=
  if ctx.settings.generateResponseDecoders then
    OperationDecoders.build? ctx.settings id responses (firstSuccess? responses)
  else none

/-- There are decoders if the settings ask for them and the responses have a success to decode. -/
theorem decodersFor_eq_some {ctx : Context} {id : String} {responses : List ResponseEntry}
    {decoders : OperationDecoders} :
    ctx.decodersFor id responses = some decoders ↔
      ctx.settings.generateResponseDecoders = true ∧
        OperationDecoders.build? ctx.settings id responses (firstSuccess? responses) =
          some decoders := by
  unfold Context.decodersFor
  split
  · next wanted => simp only [wanted, true_and]
  · next unwanted => simp only [unwanted, reduceCtorEq, false_and]

/-- The merged parameters of a declaration, as resolved under its id. -/
def Context.parametersOf (ctx : Context) (d : Declaration) (id : String) :
    Report (List ParameterEntry) :=
  collectParameters ctx id d.item.parameters (ctx.authHeaders d.operation).value
    d.operation.parameters

/-- `op` describes the declaration `d`. -/
structure Describes (ctx : Context) (d : Declaration) (op : OperationDescriptor) : Prop where
  id : d.operation.operationId = some op.operationId
  method : op.method.name = d.method
  path : op.path = d.path
  parameters : op.parameters = (ctx.parametersOf d op.operationId).value
  headers : op.headers =
    requestHeaders op.method (ctx.authHeaders d.operation).value op.parameters
  responses : op.responses = (resolveResponses ctx op.operationId d.operation.responses).value
  decoders : op.decoders = ctx.decodersFor op.operationId op.responses
  imports : ∀ name, name ∈ op.imports.names ↔
    name ∈ (ctx.parametersOf d op.operationId).findings.models ∨
    name ∈ (resolveResponses ctx op.operationId d.operation.responses).findings.models

/-- Authentication refers to no model. -/
theorem models_authHeaders (ctx : Context) (operation : Operation) :
    (ctx.authHeaders operation).findings.models = [] := by
  unfold Context.authHeaders resolveAuthHeaders
  split
  · simp only [Report.findings_bind, Report.findings_keep, Findings.models_append,
      Findings.models_concat, Report.findings_pure, List.append_nil]
    rw [List.flatMap_map, List.flatMap_eq_nil_iff]
    intro name _
    unfold findScheme
    split
    · rfl
    · rfl
  · rfl

/-- What an operation refers to becomes its own imports and goes no further. -/
theorem models_buildOperation (ctx : Context) (d : Declaration) :
    (buildOperation ctx d).findings.models = [] := by
  unfold buildOperation
  split
  · rfl
  · split
    · rfl
    · rw [Report.findings_map]
      rfl

/-- A built descriptor describes its declaration. What is said of descriptors is said from
`Describes`, so a change to the builder is answered here. -/
theorem describes_of_build {ctx : Context} {d : Declaration} {op : OperationDescriptor}
    (h : (buildOperation ctx d).value = some op) : Describes ctx d op := by
  unfold buildOperation at h
  split at h
  · cases h
  · next id hid =>
    split at h
    · cases h
    · next method hmethod =>
      rw [Report.value_map, Option.some.injEq] at h
      subst h
      refine ⟨hid, HttpMethod.name_of_ofName? hmethod, rfl, rfl, rfl, rfl, rfl, fun name => ?_⟩
      rw [show (describeOperation ctx d id method).collectImports.value.imports =
        ImportSet.ofList (describeOperation ctx d id method).findings.models from rfl,
        ImportSet.mem_ofList]
      -- the steps of the builder mention models one after the other
      have hmodels : (describeOperation ctx d id method).findings.models =
          (ctx.authHeaders d.operation).findings.models ++
            ((ctx.parametersOf d id).findings.models ++
              ((resolveResponses ctx id d.operation.responses).findings.models ++ [])) := rfl
      rw [hmodels, models_authHeaders, List.nil_append, List.append_nil, List.mem_append]
      rfl

/-- What is built carries the id its declaration claims, and a declaration without a claim is not
built. -/
theorem map_operationId_buildOperation (ctx : Context) (d : Declaration) :
    (buildOperation ctx d).value.map OperationDescriptor.operationId = d.claim? := by
  cases h : (buildOperation ctx d).value with
  | some op =>
    obtain ⟨hid, hmethod, -⟩ := describes_of_build h
    rw [Option.map_some, eq_comm, claim?_eq_some]
    exact ⟨hid, op.method, hmethod ▸ HttpMethod.ofName?_name op.method⟩
  | none =>
    rw [Option.map_none, eq_comm, Option.eq_none_iff_forall_ne_some]
    intro id hclaim
    obtain ⟨hid, method, hmethod⟩ := claim?_eq_some.mp hclaim
    -- with an id and a method the builder gives a descriptor
    unfold buildOperation at h
    rw [hid] at h
    simp only [hmethod, Report.value_map] at h
    cases h

/-! ## What the builder sees -/

/-- Of the document the builder sees neither the paths nor what was skipped on reading. -/
theorem buildOperation_of_parts {a b : Document}
    (h : b = { a with paths := b.paths, diagnostics := b.diagnostics }) (settings : Settings)
    (mapper : TypeMapper) :
    buildOperation ⟨b, settings, mapper⟩ = buildOperation ⟨a, settings, mapper⟩ := by
  funext d
  rw [h]
  rfl

/-- Of the path item it sees the parameters alone. -/
theorem buildOperation_of_item (ctx : Context) (path method : String) (operation : Operation)
    {item item' : PathItem} (h : item.parameters = item'.parameters) :
    buildOperation ctx ⟨path, item, method, operation⟩ =
      buildOperation ctx ⟨path, item', method, operation⟩ := by
  obtain ⟨parameters, operations⟩ := item
  obtain ⟨parameters', operations'⟩ := item'
  cases h
  rfl

end ServiceContract
