import ServiceContract.Proofs.Building
import ServiceContract.Proofs.TwoRuns

/-!
# Options that only decoders see

Three options decide whether operations are walked and how responses are typed. The other four are
about decoders and about the way models are emitted: whether descriptors carry decoders, which type
names select the simple ones, and whether interfaces are strict. Two runs on one document whose
settings differ in these four alone go through the same steps. What a step builds under the one is
what it builds under the other but for the decoders, and what it finds is the same.

Main results:

* `describeOperation_alike`  — an operation is described alike, but for its decoders.
* `decoder_options_confined` — the runs agree on all else that they hand on, report and log.
-/

namespace ServiceContract

/-- Both settings walk operations or both do not, and they type responses alike. -/
structure Settings.TypesAlike (s s' : Settings) : Prop where
  success : s.defaultSuccessType = s'.defaultSuccessType
  error : s.defaultErrorType = s'.defaultErrorType
  wanted : s.generateRequestTypes = s'.generateRequestTypes

/-- Settings that agree on the types of responses give the same defaults. -/
theorem Settings.TypesAlike.defaultType_eq {s s' : Settings} (h : s.TypesAlike s') :
    s.defaultType = s'.defaultType := by
  funext status
  rw [Settings.defaultType, Settings.defaultType, h.success, h.error]

/-- The descriptor without its decoders. -/
def OperationDescriptor.withoutDecoders (op : OperationDescriptor) : OperationDescriptor :=
  { op with decoders := none }

/-- The descriptors are the same but for their decoders. -/
def OperationDescriptor.AgreesButDecoders (op op' : OperationDescriptor) : Prop :=
  op.withoutDecoders = op'.withoutDecoders

/-- What the walk looks at in a descriptor is the same in both: its id, by which duplicates are
found, and its imports. -/
theorem OperationDescriptor.AgreesButDecoders.id_imports {op op' : OperationDescriptor}
    (h : op.AgreesButDecoders op') :
    op.operationId = op'.operationId ∧ op.imports = op'.imports := by
  have hid := congrArg OperationDescriptor.operationId h
  have himports := congrArg OperationDescriptor.imports h
  exact ⟨hid, himports⟩

/-! ## One operation -/

section Steps

variable {document : Document} {mapper : TypeMapper} {settings settings' : Settings}

/-- Responses are resolved without a look at the options of decoders. -/
theorem resolveResponses_alike (h : settings.TypesAlike settings') (scope : String)
    (responses : Keyed Response) :
    resolveResponses ⟨document, settings, mapper⟩ scope responses =
      resolveResponses ⟨document, settings', mapper⟩ scope responses := by
  have hresponse : resolveResponse ⟨document, settings, mapper⟩ scope =
      resolveResponse ⟨document, settings', mapper⟩ scope := by
    funext declared
    rw [resolveResponse, resolveResponse, h.defaultType_eq]
    rfl
  rw [resolveResponses, resolveResponses, hresponse]

/-- An operation is described alike, but for its decoders. -/
theorem describeOperation_alike (h : settings.TypesAlike settings') (d : Declaration)
    (id : String) (method : HttpMethod) :
    (describeOperation ⟨document, settings, mapper⟩ d id method).Alike
      OperationDescriptor.AgreesButDecoders
      (describeOperation ⟨document, settings', mapper⟩ d id method) := by
  -- neither authentication nor parameters depend on the settings
  refine (Report.Alike.of_eq rfl).bind_eq fun auth => ?_
  refine (Report.Alike.of_eq rfl).bind_eq fun parameters => ?_
  refine (Report.Alike.of_eq (resolveResponses_alike h _ _)).bind_eq fun responses => ?_
  exact (Report.Alike.refl _).bind_eq fun _ => .pure rfl

/-- An operation is built alike but for its decoders, which are built last and from which nothing is
built. -/
theorem buildOperation_alike (h : settings.TypesAlike settings') (d : Declaration) :
    (buildOperation ⟨document, settings, mapper⟩ d).Alike
      (Option.Rel OperationDescriptor.AgreesButDecoders)
      (buildOperation ⟨document, settings', mapper⟩ d) := by
  refine buildOperation_described_alike ?_ fun id method _ => describeOperation_alike h d id method
  intro op op' imports hop
  exact congrArg (fun op : OperationDescriptor => { op with imports }) hop

end Steps

/-! ## Runs -/

/-- The model without the mark of strict interfaces. -/
def ModelDescriptor.withoutMode (m : ModelDescriptor) : ModelDescriptor :=
  { m with strict := false }

/-- What is handed on differs in decoders and in the mode of models alone. -/
structure Generation.AgreesButDecoders (g g' : Generation) : Prop where
  imports : g.imports = g'.imports
  diagnostics : g.diagnostics = g'.diagnostics
  models : g.models.map ModelDescriptor.withoutMode = g'.models.map ModelDescriptor.withoutMode
  operations : g.operations.map OperationDescriptor.withoutDecoders =
    g'.operations.map OperationDescriptor.withoutDecoders

/-- The option of models shows in their modes alone. -/
theorem map_withoutMode_models (document : Document) (strict : Bool) :
    (document.models strict).map ModelDescriptor.withoutMode = document.models false := by
  rw [Document.models, Document.models, List.map_map]
  rfl

/-- Runs whose settings differ in the options of decoders and models alone are both refused, or
agree on all but these. `alike` leaves the two settings free in every option that is about decoders
or models, and asks that they agree in the others. -/
theorem decoder_options_confined (document : Document) (mapper : TypeMapper)
    (settings settings' : Settings) (alike : settings.TypesAlike settings') :
    EndAlike Generation.AgreesButDecoders
      (generate ⟨document, settings, mapper⟩) (generate ⟨document, settings', mapper⟩) := by
  refine generate_alike rfl alike.wanted (fun _ _ hop => hop.id_imports)
    (buildOperation_alike alike) ?_
  intro h
  refine ⟨h.imports, h.diagnostics, ?_, ?_⟩
  · rw [models_generateAll, models_generateAll, map_withoutMode_models, map_withoutMode_models]
  · rw [← List.forall₂_eq_eq_eq, List.forall₂_map_left_iff, List.forall₂_map_right_iff]
    exact h.operations

/-- A document with a model and an operation that has a success and an error. -/
def modelled : Document where
  swagger := some "2.0"
  definitions := Keyed.ofList [("Order", .object [])]
  paths := Keyed.ofList [("/orders", { operations := Keyed.ofList [
    ("get", {
      operationId := some "list"
      responses := Keyed.ofList [
        ("200", { schema := some ⟨some "#/definitions/Order", none, none⟩ }),
        ("404", {})] })] })]

/-- Settings that ask for no decoders and for strict models, with markers of their own. -/
def bareSettings : Settings where
  generateResponseDecoders := false
  strictInterfaces := true
  noContentMarker := "void"
  genericErrorMarker := "Problem"

/-- Two runs on one document, the second without decoders, with strict models and with markers of
its own. -/
theorem modelled_options_confined :
    Settings.TypesAlike {} bareSettings ∧
      EndAlike Generation.AgreesButDecoders
        (generate ⟨modelled, {}, TypeMapper.standard⟩)
        (generate ⟨modelled, bareSettings, TypeMapper.standard⟩) :=
  ⟨⟨rfl, rfl, rfl⟩,
    decoder_options_confined modelled TypeMapper.standard {} bareSettings ⟨rfl, rfl, rfl⟩⟩

example : [{}, bareSettings].map (fun settings =>
    (generateAll ⟨modelled, settings, TypeMapper.standard⟩).value.operations.map
      (·.decoders.isSome)) = [[true], [false]] := by decide +kernel

end ServiceContract
