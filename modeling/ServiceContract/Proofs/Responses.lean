import ServiceContract.Proofs.Building
import ServiceContract.Resolve.Responses

/-!
# What responses resolve to

A response is typed by the definition its schema refers to, `Context.modelOf?`, and by a default
where it refers to none. Only what `modelOf?` gives is mentioned as a model.

Main results:

* `value_resolveResponses`      — the entry of each declared response; `Describes.entries` says the
  same of a descriptor.
* `mem_models_resolveResponses` — the models that responses mention.
-/

namespace ServiceContract

/-- The definition of the document that a response's schema refers to. -/
def Context.modelOf? (ctx : Context) (response : Response) : Option String :=
  match (response.schema.bind Schema.reference).bind Reference.ofPointer? with
  | some ⟨.definition, name⟩ => if ctx.document.defines name then some name else none
  | _ => none

/-- The entry of a declared response. -/
def Context.entryOf (ctx : Context) (declared : String × Response) : ResponseEntry :=
  ⟨declared.1, (ctx.modelOf? declared.2).getD (ctx.settings.defaultType declared.1)⟩

theorem Context.entryOf_of_none {ctx : Context} {declared : String × Response}
    (h : ctx.modelOf? declared.2 = none) :
    ctx.entryOf declared = ⟨declared.1, ctx.settings.defaultType declared.1⟩ := by
  rw [entryOf, h, Option.getD_none]

theorem Context.entryOf_of_some {ctx : Context} {declared : String × Response} {model : String}
    (h : ctx.modelOf? declared.2 = some model) : ctx.entryOf declared = ⟨declared.1, model⟩ := by
  rw [entryOf, h, Option.getD_some]

variable (ctx : Context) (scope : String)

/-- Looking up a response's model gives it without a mention. The mention comes when the entry is
made. -/
theorem resolveModel_spec (status : String) (response : Response) :
    (resolveModel ctx scope status response).value = ctx.modelOf? response ∧
      (resolveModel ctx scope status response).findings.models = [] := by
  unfold resolveModel Context.modelOf?
  cases response.schema.bind Schema.reference with
  | none => exact ⟨rfl, rfl⟩
  | some pointer =>
    rw [Option.bind_some]
    cases hpointer : Reference.ofPointer? pointer with
    | none => simp [hpointer]
    | some reference =>
      obtain ⟨category, name⟩ := reference
      -- a reference counts only if it is to a definition that the document has
      cases category with
      | definition =>
        by_cases h : ctx.document.defines name = true
        · simp [hpointer, h]
        · simp [hpointer, h]
      | parameter => simp [hpointer]
      | other => simp [hpointer]

/-- A response gives its entry, and mentions the model that types it if there is one. -/
theorem resolveResponse_spec (declared : String × Response) :
    (resolveResponse ctx scope declared).value = ctx.entryOf declared ∧
      (resolveResponse ctx scope declared).findings.models =
        (ctx.modelOf? declared.2).toList := by
  obtain ⟨hvalue, hmodels⟩ := resolveModel_spec ctx scope declared.1 declared.2
  rw [resolveResponse, Report.value_bind, Report.findings_bind, Findings.models_append, hvalue,
    hmodels, Context.entryOf]
  cases ctx.modelOf? declared.2 <;> exact ⟨rfl, rfl⟩

/-- The entries of declared responses. -/
theorem value_resolveResponses (responses : Keyed Response) :
    (resolveResponses ctx scope responses).value = responses.entries.map ctx.entryOf := by
  rw [resolveResponses, Report.value_each]
  exact List.map_congr_left fun declared _ => (resolveResponse_spec ctx scope declared).1

/-- The responses of a descriptor are the entries of the declared ones. -/
theorem Describes.entries {ctx : Context} {d : Declaration} {op : OperationDescriptor}
    (hop : Describes ctx d op) :
    op.responses = d.operation.responses.entries.map ctx.entryOf := by
  rw [hop.responses]
  exact value_resolveResponses ctx _ _

/-- The models that responses mention are the definitions they refer to. -/
theorem mem_models_resolveResponses {responses : Keyed Response} {name : String} :
    name ∈ (resolveResponses ctx scope responses).findings.models ↔
      ∃ declared ∈ responses.entries, ctx.modelOf? declared.2 = some name := by
  rw [resolveResponses, Report.findings_each, Findings.models_concat, List.flatMap_map,
    List.mem_flatMap]
  simp only [(resolveResponse_spec ctx scope _).2, Option.mem_toList]

end ServiceContract
