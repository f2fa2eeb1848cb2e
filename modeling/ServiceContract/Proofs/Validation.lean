import ServiceContract.Proofs.CodecClosure
import ServiceContract.Proofs.Parameters

/-!
# Bodies and the definitions they are validated against

A response that refers to a definition has the definition's name for its type, and the decoder of
its status is chosen by that type. The settings mark two type names that select decoders without a
look at the body. A definition can have one of these names, and the choice does not tell it from a
default type: its bodies are not validated then. Under any other name they are, by a leaf that is
the only one for the status.

Main results:

* `DecoderTree.handles_of_mem` — each entry but the success has one leaf, the one its type selects.
* `decodedAs_of_pointsTo`      — for a descriptor: what a reference to a definition is decoded by.
* `referenced_bodies_decoded`  — the same for all runs.
* `markedProblem_unvalidated`  — a run where a definition has the name of a marker.
-/

namespace ServiceContract

/-! ## The leaf of a status -/

/-- `leaf` is the one leaf of the tree for `status`, and look-up leads to it. -/
structure DecoderTree.Handles (tree : DecoderTree) (status : String) (leaf : StatusDecoder) :
    Prop where
  only : tree.leaves.filter (fun l => l.status = status) = [leaf]
  found : tree.decoderFor? status = some leaf

/-- A status is handled by one leaf. -/
theorem DecoderTree.Handles.unique {tree : DecoderTree} {status : String}
    {leaf leaf' : StatusDecoder} (h : tree.Handles status leaf) (h' : tree.Handles status leaf') :
    leaf = leaf' :=
  Option.some.inj (h.found.symm.trans h'.found)

/-- In a tree composed of entries with distinct statuses each entry has its own leaf. -/
theorem DecoderTree.handles_of_mem {settings : Settings} {success : String}
    {entries : List ResponseEntry} {tree : DecoderTree} {entry : ResponseEntry}
    (hnodup : (entries.map ResponseEntry.status).Nodup)
    (htree : composeDecoders settings success entries = some tree) (hmem : entry ∈ entries) :
    tree.Handles entry.status (statusDecoder settings success entry) := by
  have hleaves := leaves_composeDecoders htree
  refine ⟨?_, ?_⟩
  · rw [hleaves]
    exact filter_status_statusDecoder hnodup hmem
  · rw [decoderFor?_eq_find?, hleaves]
    exact find?_statusDecoder hnodup hmem

/-! ## References to definitions -/

/-- How `tree` decodes bodies of `status` that are typed by the definition `name`. -/
structure DecodedAs (settings : Settings) (tree : DecoderTree) (status name : String) : Prop where
  /-- They are validated against the definition exactly if its name is not marked. -/
  validated : tree.Handles status (.io status (.model name)) ↔ ¬ settings.Marks name
  noContent : name = settings.noContentMarker → tree.Handles status (.constant status name)
  genericError : name ≠ settings.noContentMarker → name = settings.genericErrorMarker →
    tree.Handles status (.basicError status)

/-- Apart from the success, a type is validated exactly if it is no marker. -/
theorem statusDecoder_eq_model {settings : Settings} {success status type : String}
    (hother : status ≠ success) :
    statusDecoder settings success ⟨status, type⟩ = .io status (.model type) ↔
      ¬ settings.Marks type := by
  rw [statusDecoder, if_neg hother, Settings.Marks]
  -- the first marker is asked for before the second
  by_cases hcontent : type = settings.noContentMarker
  · rw [if_pos hcontent]
    simp [hcontent]
  · rw [if_neg hcontent]
    by_cases herror : type = settings.genericErrorMarker
    · rw [if_pos herror]
      simp [herror]
    · rw [if_neg herror]
      simp [hcontent, herror]

/-- The leaf that handles a status tells what its bodies are decoded as, and the name of the type
decides which leaf that is. -/
theorem decodedAs_of_handles {settings : Settings} {tree : DecoderTree}
    {success status name : String} (hother : status ≠ success)
    (h : tree.Handles status (statusDecoder settings success ⟨status, name⟩)) :
    DecodedAs settings tree status name := by
  refine ⟨?_, ?_, ?_⟩
  · -- no marker: then the leaf that handles the status is the one that validates
    rw [← statusDecoder_eq_model hother]
    constructor
    · intro hmodel
      exact h.unique hmodel
    · intro hleaf
      rw [hleaf] at h
      exact h
  · intro hcontent
    have hleaf : statusDecoder settings success ⟨status, name⟩ = .constant status name := by
      rw [statusDecoder, if_neg hother, if_pos hcontent, hcontent]
    rw [hleaf] at h
    exact h
  · intro hcontent herror
    have hleaf : statusDecoder settings success ⟨status, name⟩ = .basicError status := by
      rw [statusDecoder, if_neg hother, if_neg hcontent, if_pos herror]
    rw [hleaf] at h
    exact h

/-- The leaf for a response that refers to a definition is selected by the definition's name. -/
theorem decodedAs_of_pointsTo {ctx : Context} {d : Declaration} {op : OperationDescriptor}
    {decoders : OperationDecoders} (hop : Describes ctx d op)
    (present : op.decoders = some decoders) {declared : String × Response}
    (hmem : declared ∈ d.operation.responses.entries)
    (hother : declared.1 ≠ decoders.successStatus) {name : String}
    (hpoints : ctx.document.PointsTo (declared.2.schema.bind Schema.reference) name) :
    DecodedAs ctx.settings decoders.factory declared.1 name := by
  have hentry : ctx.entryOf declared = ⟨declared.1, name⟩ :=
    Context.entryOf_of_some (modelOf?_eq_some.mpr hpoints)
  have hlisted : ctx.entryOf declared ∈ op.responses := by
    rw [hop.entries]
    exact List.mem_map_of_mem hmem
  rw [hentry] at hlisted
  -- the type is all that the composer sees of the reference
  exact decodedAs_of_handles hother
    (DecoderTree.handles_of_mem hop.nodup_statuses (hop.tree present) hlisted)

/-! ## All runs -/

/-- In every run, a response that refers to a definition is decoded as the definition's name tells,
the success apart. The success is decoded by the caller's type. A definition whose name is a marker
selects the decoder of that marker, and its bodies are not validated by it. -/
theorem referenced_bodies_decoded (ctx : Context) (r : Report Generation)
    (run : generate ctx = .ok r) (op : OperationDescriptor) (member : op ∈ r.value.operations)
    (decoders : OperationDecoders) (present : op.decoders = some decoders) :
    ∃ d ∈ ctx.document.declarations, (buildOperation ctx d).value = some op ∧
      ∀ declared ∈ d.operation.responses.entries, declared.1 ≠ decoders.successStatus →
        ∀ name, ctx.document.PointsTo (declared.2.schema.bind Schema.reference) name →
          DecodedAs ctx.settings decoders.factory declared.1 name := by
  obtain ⟨-, rfl⟩ := generate_eq_ok.mp run
  obtain ⟨d, hd, hvalue⟩ := exists_declaration_of_mem member
  refine ⟨d, hd, hvalue, ?_⟩
  intro declared hmem hother name hpoints
  exact decodedAs_of_pointsTo (describes_of_build hvalue) present hmem hother hpoints

/-- A document with two definitions, one of which has the name of the default error marker, and an
operation with an error response for each of them. -/
def markedProblem : Context where
  document :=
    { swagger := some "2.0"
      definitions := Keyed.ofList [("Error", .object []), ("Problem", .object [])]
      paths := Keyed.ofList [("/orders", { operations := Keyed.ofList [
        ("get", {
          operationId := some "list"
          responses := Keyed.ofList [
            ("200", {}),
            ("404", { schema := some ⟨some "#/definitions/Error", none, none⟩ }),
            ("409", { schema := some ⟨some "#/definitions/Problem", none, none⟩ })] })] })] }
  settings := {}
  mapper := TypeMapper.standard

/-- A run with two errors, one of which refers to a definition named like a marker. -/
theorem markedProblem_decoded :
    ∃ r op decoders, generate markedProblem = .ok r ∧ op ∈ r.value.operations ∧
      op.decoders = some decoders ∧
      ∃ d ∈ markedProblem.document.declarations,
        (buildOperation markedProblem d).value = some op ∧
        ∀ declared ∈ d.operation.responses.entries, declared.1 ≠ decoders.successStatus →
          ∀ name, markedProblem.document.PointsTo (declared.2.schema.bind Schema.reference) name →
            DecodedAs markedProblem.settings decoders.factory declared.1 name :=
  ⟨_, _, _, rfl, List.mem_cons_self .., rfl,
    referenced_bodies_decoded markedProblem _ rfl _ (List.mem_cons_self ..) _ rfl⟩

/-- The response that refers to the definition `Error` is decoded without a look at its body. -/
theorem markedProblem_unvalidated :
    ∃ r op decoders, generate markedProblem = .ok r ∧ op ∈ r.value.operations ∧
      op.decoders = some decoders ∧ decoders.successStatus ≠ "404" ∧
      markedProblem.document.PointsTo (some "#/definitions/Error") "Error" ∧
      (∃ d ∈ markedProblem.document.declarations,
        (buildOperation markedProblem d).value = some op ∧
        ("404", ⟨none, some ⟨some "#/definitions/Error", none, none⟩⟩) ∈
          d.operation.responses.entries) ∧
      decoders.factory.decoderFor? "404" = some (.basicError "404") := by
  refine ⟨_, _, _, rfl, List.mem_cons_self .., rfl, ?_, ?_, ?_, ?_⟩
  · decide
  · exact ⟨by decide +kernel, by decide +kernel⟩
  · exact ⟨_, List.mem_cons_self .., rfl, .tail _ (.head _)⟩
  · decide +kernel

end ServiceContract
