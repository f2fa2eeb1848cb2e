import ServiceContract.Proofs.Decoding
import ServiceContract.Proofs.Responses

/-!
# Codecs and imports

A decoder names a model where it validates a body by it. The models that responses refer to are
imported, but a response without a usable reference has a default type of the settings, which is
not. If neither marker of the settings is that type, the decoder names it all the same.

So the imports cover the codecs exactly where each default type in use is a marker or happens to be
imported for another reason; and they do so whatever the document is, exactly if both default types
are markers.

Main results:

* `importsCodecs_iff`     — for a descriptor: when its imports cover its codecs.
* `imports_cover_codecs`  — the same for all runs, and which settings ensure it for every document.
* `defaulted_codec`       — a run whose decoder names a model that is not imported.
-/

namespace ServiceContract

/-! ## Codecs -/

/-- The model that a decoder validates bodies by. -/
def StatusDecoder.boundModel? : StatusDecoder → Option String
  | .io _ (.model name) => some name
  | _ => none

/-- The models that a composed decoder validates bodies by. -/
def DecoderTree.boundModels (tree : DecoderTree) : List String :=
  tree.leaves.filterMap StatusDecoder.boundModel?

/-- The type selects a decoder that looks at no body. -/
def Settings.Marks (settings : Settings) (type : String) : Prop :=
  type = settings.noContentMarker ∨ type = settings.genericErrorMarker

/-- An entry's decoder names a model unless its status is the success or its type a marker. -/
theorem boundModel?_statusDecoder {settings : Settings} {success : String}
    {entry : ResponseEntry} {name : String} :
    (statusDecoder settings success entry).boundModel? = some name ↔
      entry.status ≠ success ∧ ¬ settings.Marks entry.type ∧ entry.type = name := by
  unfold statusDecoder Settings.Marks
  -- the decoder is chosen by the success first, then by the markers, one after the other
  by_cases hs : entry.status = success
  · rw [if_pos hs]
    simp [hs, StatusDecoder.boundModel?]
  · rw [if_neg hs]
    by_cases hn : entry.type = settings.noContentMarker
    · rw [if_pos hn]
      simp [hn, StatusDecoder.boundModel?]
    · rw [if_neg hn]
      by_cases hg : entry.type = settings.genericErrorMarker
      · rw [if_pos hg]
        simp [hg, StatusDecoder.boundModel?]
      · rw [if_neg hg]
        simp [hs, hn, hg, StatusDecoder.boundModel?]

/-- A tree composed for some entries names the types of those that are neither the success nor
marked. Whether such a type is a definition or a default makes no difference here. -/
theorem mem_boundModels {settings : Settings} {success : String} {entries : List ResponseEntry}
    {tree : DecoderTree} (h : composeDecoders settings success entries = some tree)
    {name : String} :
    name ∈ tree.boundModels ↔
      ∃ entry ∈ entries, entry.status ≠ success ∧ ¬ settings.Marks entry.type ∧
        entry.type = name := by
  rw [DecoderTree.boundModels, leaves_composeDecoders h, List.filterMap_map, List.mem_filterMap]
  exact exists_congr fun entry => and_congr_right fun _ => boundModel?_statusDecoder

/-! ## A descriptor -/

/-- The imports of `op` cover the models that `decoders` name. -/
def ImportsCodecs (op : OperationDescriptor) (decoders : OperationDecoders) : Prop :=
  ∀ name ∈ decoders.factory.boundModels, name ∈ op.imports.names

/-- The imports cover the codecs exactly if every default type in use, the success apart, is a
marker or imported anyway. -/
theorem importsCodecs_iff {ctx : Context} {d : Declaration} {op : OperationDescriptor}
    {decoders : OperationDecoders} (hop : Describes ctx d op)
    (hdecoders : op.decoders = some decoders) :
    ImportsCodecs op decoders ↔
      ∀ declared ∈ d.operation.responses.entries, declared.1 ≠ decoders.successStatus →
        ctx.modelOf? declared.2 = none →
        ctx.settings.Marks (ctx.settings.defaultType declared.1) ∨
          ctx.settings.defaultType declared.1 ∈ op.imports.names := by
  have hentries := hop.entries
  unfold ImportsCodecs
  simp only [mem_boundModels (hop.tree hdecoders)]
  constructor
  · -- a default type that is no marker is a model to the decoder
    intro h declared hmem hne hnone
    have hentry : ctx.entryOf declared ∈ op.responses := hentries ▸ List.mem_map_of_mem hmem
    rw [Context.entryOf_of_none hnone] at hentry
    by_cases hmark : ctx.settings.Marks (ctx.settings.defaultType declared.1)
    · exact Or.inl hmark
    · exact Or.inr (h _ ⟨_, hentry, hne, hmark, rfl⟩)
  · rintro h name ⟨e, he, hne, hmark, rfl⟩
    rw [hentries] at he
    obtain ⟨declared, hmem, rfl⟩ := List.mem_map.mp he
    cases hmodel : ctx.modelOf? declared.2 with
    | some model =>
      -- a definition that a response refers to is imported
      rw [Context.entryOf_of_some hmodel, hop.imports, mem_models_resolveResponses]
      exact Or.inr ⟨declared, hmem, hmodel⟩
    | none =>
      rw [Context.entryOf_of_none hmodel] at hmark ⊢
      exact (h declared hmem hne hmodel).resolve_left hmark

/-! ## All runs -/

/-- An operation that documents the types of two successes and of an error nowhere. -/
def undocumentedOperation : Operation where
  operationId := some "list"
  responses := Keyed.ofList [("200", {}), ("201", {}), ("404", {})]

/-- A document with that operation alone. -/
def undocumented : Document where
  swagger := some "2.0"
  paths := Keyed.ofList
    [("/orders", { operations := Keyed.ofList [("get", undocumentedOperation)] })]

/-- The place of the operation in the document. -/
def undocumentedDeclaration : Declaration where
  path := "/orders"
  item := { operations := Keyed.ofList [("get", undocumentedOperation)] }
  method := "get"
  operation := undocumentedOperation

/-- Its descriptor has decoders for the first success and imports nothing. -/
theorem exists_descriptor_undocumented {settings : Settings} (mapper : TypeMapper)
    (wanted : settings.generateRequestTypes = true)
    (asked : settings.generateResponseDecoders = true) :
    ∃ op decoders, op ∈ (generateAll ⟨undocumented, settings, mapper⟩).value.operations ∧
      Describes ⟨undocumented, settings, mapper⟩ undocumentedDeclaration op ∧
      op.decoders = some decoders ∧ decoders.successStatus = "200" ∧ op.imports.names = [] := by
  let ctx : Context := ⟨undocumented, settings, mapper⟩
  obtain ⟨op, hvalue, -⟩ := Option.map_eq_some_iff.mp
    ((map_operationId_buildOperation ctx undocumentedDeclaration).trans
      (show undocumentedDeclaration.claim? = some "list" from rfl))
  have hop := describes_of_build hvalue
  have hkept : undocumentedDeclaration ∈ kept [] ctx.document.declarations :=
    List.mem_cons_self ..
  have hresponses : op.responses = [("200", {}), ("201", {}), ("404", {})].map ctx.entryOf :=
    hop.entries
  -- the first status is a success, so there are decoders wherever they are asked for
  have hsuccess : isSuccessStatus "200" = true := by decide
  have hfirst : firstSuccess? op.responses = some (ctx.entryOf ("200", {})) := by
    rw [hresponses]
    exact List.find?_cons_of_pos hsuccess
  obtain ⟨decoders, hdecoders⟩ : ∃ decoders, op.decoders = some decoders := by
    rw [← Option.isSome_iff_exists, hop.decoders, isSome_decodersFor]
    refine ⟨asked, ctx.entryOf ("200", {}), ?_, isSuccessStatus_iff.mp hsuccess⟩
    rw [hresponses]
    exact List.mem_cons_self ..
  refine ⟨op, decoders, (mem_generateOperations wanted).mpr ⟨_, hkept, hvalue⟩, hop, hdecoders,
    ?_, ?_⟩
  · rw [hop.decoders, decodersFor_eq_some] at hdecoders
    obtain ⟨entry, hentry, hstatus, -⟩ := OperationDecoders.exists_of_build? hdecoders.2
    rw [hstatus, ← Option.some.inj (hfirst.symm.trans hentry)]
    rfl
  · -- neither parameters nor responses refer to a model
    rw [List.eq_nil_iff_forall_not_mem]
    intro name hname
    rcases (hop.imports name).mp hname with hparameter | hresponse
    · exact List.not_mem_nil hparameter
    · exact List.not_mem_nil hresponse

/-- When a descriptor's imports cover its codecs, and when they do so for every document: then both
default types have to be markers. The second part is about the settings alone, so it speaks of
settings that ask for operations and for decoders; where they do not, no descriptor has codecs. -/
theorem imports_cover_codecs (settings : Settings) :
    (∀ document mapper r op decoders, generate ⟨document, settings, mapper⟩ = .ok r →
      op ∈ r.value.operations → op.decoders = some decoders →
      ∃ d ∈ document.declarations,
        (buildOperation ⟨document, settings, mapper⟩ d).value = some op ∧
        (ImportsCodecs op decoders ↔
          ∀ declared ∈ d.operation.responses.entries, declared.1 ≠ decoders.successStatus →
            Context.modelOf? ⟨document, settings, mapper⟩ declared.2 = none →
            settings.Marks (settings.defaultType declared.1) ∨
              settings.defaultType declared.1 ∈ op.imports.names)) ∧
    ((∀ document mapper r op decoders, generate ⟨document, settings, mapper⟩ = .ok r →
        op ∈ r.value.operations → op.decoders = some decoders → ImportsCodecs op decoders) ↔
      (settings.generateRequestTypes = true → settings.generateResponseDecoders = true →
        settings.Marks settings.defaultSuccessType ∧
          settings.Marks settings.defaultErrorType)) := by
  refine ⟨?_, ?_, ?_⟩
  · intro document mapper r op decoders hrun hop hdecoders
    obtain ⟨-, rfl⟩ := generate_eq_ok.mp hrun
    obtain ⟨d, hd, hvalue⟩ := exists_declaration_of_mem hop
    exact ⟨d, hd, hvalue, importsCodecs_iff (describes_of_build hvalue) hdecoders⟩
  · -- the undocumented operation uses both default types and imports nothing
    intro h wanted asked
    obtain ⟨op, decoders, hop, hdescribes, hdecoders, hstatus, himports⟩ :=
      exists_descriptor_undocumented TypeMapper.standard wanted asked
    have hcover := (importsCodecs_iff hdescribes hdecoders).mp
      (h undocumented TypeMapper.standard _ op decoders (generate_eq_ok.mpr ⟨rfl, rfl⟩) hop
        hdecoders)
    rw [hstatus, himports] at hcover
    constructor
    · have h201 := hcover ("201", {}) (.tail _ (.head _)) (by decide) rfl
      exact h201.resolve_right List.not_mem_nil
    · have h404 := hcover ("404", {}) (.tail _ (.tail _ (.head _))) (by decide) rfl
      exact h404.resolve_right List.not_mem_nil
  · -- with both defaults markers, what a decoder names is always referred to
    intro h document mapper r op decoders hrun hop hdecoders
    obtain ⟨-, rfl⟩ := generate_eq_ok.mp hrun
    obtain ⟨d, hd, hvalue⟩ := exists_declaration_of_mem hop
    have hdescribes := describes_of_build hvalue
    have hasked : settings.generateResponseDecoders = true := by
      have hsome := hdescribes.decoders ▸ Option.isSome_of_mem hdecoders
      exact (isSome_decodersFor.mp hsome).1
    obtain ⟨hsuccess, herror⟩ := h (wanted_of_mem hop) hasked
    rw [importsCodecs_iff hdescribes hdecoders]
    intro declared _ _ _
    left
    unfold Settings.defaultType
    split
    · exact hsuccess
    · exact herror

/-- An operation whose error response refers to no model. -/
def untypedError : Operation where
  operationId := some "list"
  responses := Keyed.ofList [("200", {}), ("404", {})]

/-- A document with that operation and one model. -/
def defaulted : Document where
  swagger := some "2.0"
  definitions := Keyed.ofList [("Problem", .object [("type", .string "object")])]
  paths := Keyed.ofList [("/orders", { operations := Keyed.ofList [("get", untypedError)] })]

/-- Where the model is the default type of errors, the decoder of the error names it and the
descriptor does not import it. -/
theorem defaulted_codec :
    ∃ r op decoders,
      generate ⟨defaulted, { defaultErrorType := "Problem" }, TypeMapper.standard⟩ = .ok r ∧
      op ∈ r.value.operations ∧ op.decoders = some decoders ∧
      "Problem" ∈ decoders.factory.boundModels ∧ "Problem" ∉ op.imports.names := by
  refine ⟨_, _, _, rfl, List.mem_cons_self .., rfl, ?_, ?_⟩
  · decide +kernel
  · decide +kernel

end ServiceContract
