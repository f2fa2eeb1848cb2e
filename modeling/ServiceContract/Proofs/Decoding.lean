import ServiceContract.Proofs.Walk

/-!
# Decoders and responses

An operation's responses, the choice of its success, the decoder of each entry and the composed tree
are made one after the other, and all of them go by the status. `Fits` says that they agree: a leaf
for each response, one of them open to the caller, every declared status handled by its own leaf and
no other status handled at all.

Statuses are the keys of a table and so distinct, and that is what makes the open leaf unique.

Main results:

* `fits_of_build?`                 — decoders built from distinct statuses fit them.
* `isSome_decodersFor`             — there are decoders if they are asked for and a status is 2xx.
* `descriptor_responds_as_declared` — so it is for every descriptor of a run.
-/

namespace ServiceContract

/-! ## The open leaf -/

/-- Whether the decoder's codec is left to the caller of the factory. -/
def StatusDecoder.isGeneric : StatusDecoder → Bool
  | .io _ .generic => true
  | _ => false

/-- The leaf for the success is the generic one, and no other. -/
theorem isGeneric_statusDecoder (settings : Settings) (success : String) (entry : ResponseEntry) :
    (statusDecoder settings success entry).isGeneric = decide (entry.status = success) := by
  unfold statusDecoder
  split
  · next h => simp [StatusDecoder.isGeneric, h]
  · next h =>
    -- the three decoders of other statuses are not generic
    rw [decide_eq_false h]
    split
    · rfl
    · split
      · rfl
      · rfl

/-- The success status decodes with the caller's codec. -/
theorem statusDecoder_of_eq {settings : Settings} {success : String} {entry : ResponseEntry}
    (h : entry.status = success) :
    statusDecoder settings success entry = .io success .generic := by
  rw [statusDecoder, if_pos h, h]

/-- Distinct statuses single out their entries. -/
theorem filter_status_eq {entries : List ResponseEntry} {entry : ResponseEntry}
    (hnodup : (entries.map ResponseEntry.status).Nodup) (hmem : entry ∈ entries) :
    entries.filter (fun e => e.status = entry.status) = [entry] := by
  induction entries with
  | nil => cases hmem
  | cons e rest ih =>
    rw [List.map_cons, List.nodup_cons] at hnodup
    obtain ⟨hnew, hrest⟩ := hnodup
    rcases List.mem_cons.mp hmem with rfl | hmem
    · -- no later entry has the status of the first
      rw [List.filter_cons_of_pos (by simp), List.filter_eq_nil_iff.mpr]
      intro e' he' heq
      exact hnew ((decide_eq_true_eq.mp heq) ▸ List.mem_map_of_mem he')
    · have hne : e.status ≠ entry.status := fun heq => hnew (heq ▸ List.mem_map_of_mem hmem)
      rw [List.filter_cons_of_neg (by simp [hne])]
      exact ih hrest hmem

/-- Among entries of distinct statuses only that of the success status has a generic leaf. -/
theorem filter_isGeneric {settings : Settings} {success : ResponseEntry}
    {entries : List ResponseEntry} (hnodup : (entries.map ResponseEntry.status).Nodup)
    (hmem : success ∈ entries) :
    (entries.map (statusDecoder settings success.status)).filter StatusDecoder.isGeneric =
      [.io success.status .generic] := by
  have hgeneric : StatusDecoder.isGeneric ∘ statusDecoder settings success.status =
      fun e => decide (e.status = success.status) :=
    funext (isGeneric_statusDecoder settings success.status)
  rw [List.filter_map, hgeneric, filter_status_eq hnodup hmem, List.map_singleton,
    statusDecoder_of_eq rfl]

/-- Among entries of distinct statuses each has one leaf with its status, its own. -/
theorem filter_status_statusDecoder {settings : Settings} {success : String}
    {entry : ResponseEntry} {entries : List ResponseEntry}
    (hnodup : (entries.map ResponseEntry.status).Nodup) (hmem : entry ∈ entries) :
    (entries.map (statusDecoder settings success)).filter (fun leaf => leaf.status = entry.status) =
      [statusDecoder settings success entry] := by
  have hstatus : (fun leaf : StatusDecoder => decide (leaf.status = entry.status)) ∘
      statusDecoder settings success = fun e => decide (e.status = entry.status) :=
    funext fun e => by rw [Function.comp_apply, status_statusDecoder]
  -- a leaf has the status of its entry, so the leaves are picked as the entries are
  rw [List.filter_map, hstatus, filter_status_eq hnodup hmem, List.map_singleton]

/-- Among entries of distinct statuses each is handled by its own leaf. -/
theorem find?_statusDecoder {settings : Settings} {success : String} {entry : ResponseEntry}
    {entries : List ResponseEntry} (hnodup : (entries.map ResponseEntry.status).Nodup)
    (hmem : entry ∈ entries) :
    (entries.map (statusDecoder settings success)).find? (fun leaf => leaf.status = entry.status) =
      some (statusDecoder settings success entry) := by
  rw [← List.head?_filter, filter_status_statusDecoder hnodup hmem, List.head?_cons]

/-! ## Agreement -/

/-- `decoders` fit `responses`. -/
structure Fits (responses : List ResponseEntry) (decoders : OperationDecoders) : Prop where
  /-- There is one leaf for each response, with its status, in their order. -/
  statuses : decoders.factory.leaves.map StatusDecoder.status =
    responses.map ResponseEntry.status
  /-- The one leaf that is open to the caller is that of the success status. -/
  generic : decoders.factory.leaves.filter StatusDecoder.isGeneric =
    [.io decoders.successStatus .generic]
  /-- The success is the first response with a 2xx status. -/
  success : ∃ before entry after, responses = before ++ entry :: after ∧
    (∀ e ∈ before, ¬ (e.status.utf8ByteSize = 3 ∧ e.status.toList.head? = some '2')) ∧
    (entry.status.utf8ByteSize = 3 ∧ entry.status.toList.head? = some '2') ∧
    decoders.successStatus = entry.status ∧ decoders.successType = entry.type
  /-- The status of a response is handled by the leaf in its place. -/
  handled : ∀ (i : Nat) (entry : ResponseEntry) (leaf : StatusDecoder),
    responses[i]? = some entry → decoders.factory.leaves[i]? = some leaf →
    decoders.factory.decoderFor? entry.status = some leaf
  /-- No other status is handled. -/
  unhandled : ∀ status, (∀ entry ∈ responses, entry.status ≠ status) →
    decoders.factory.decoderFor? status = none

/-- Decoders built from distinct statuses fit them. -/
theorem fits_of_build? {settings : Settings} {id : String} {responses : List ResponseEntry}
    {decoders : OperationDecoders} (hnodup : (responses.map ResponseEntry.status).Nodup)
    (h : OperationDecoders.build? settings id responses (firstSuccess? responses) =
      some decoders) : Fits responses decoders := by
  obtain ⟨entry, hfirst, hstatus, htype, htree⟩ := OperationDecoders.exists_of_build? h
  have hleaves := leaves_composeDecoders htree
  -- the success is the first entry of its kind: none before it has a 2xx status
  obtain ⟨hsuccess, before, after, rfl, hbefore⟩ := List.find?_eq_some_iff_append.mp hfirst
  refine ⟨?_, ?_, ⟨before, entry, after, rfl, ?_, ?_, hstatus, htype⟩, ?_, ?_⟩
  · rw [hleaves, List.map_map]
    exact List.map_congr_left fun e _ => status_statusDecoder settings _ e
  · rw [hleaves, hstatus]
    exact filter_isGeneric hnodup (List.mem_append_right before (List.mem_cons_self ..))
  · intro e he hsucc
    have hnot := hbefore e he
    rw [ResponseEntry.isSuccess, isSuccessStatus_iff.mpr hsucc] at hnot
    cases hnot
  · exact isSuccessStatus_iff.mp hsuccess
  · intro i e leaf he hleaf
    rw [hleaves, List.getElem?_map, he, Option.map_some] at hleaf
    rw [DecoderTree.decoderFor?_eq_find?, hleaves,
      find?_statusDecoder hnodup (List.mem_of_getElem? he), hleaf]
  · intro status hother
    rw [DecoderTree.decoderFor?_eq_find?, hleaves, List.find?_eq_none]
    intro leaf hleaf
    obtain ⟨e, he, rfl⟩ := List.mem_map.mp hleaf
    rw [status_statusDecoder, decide_eq_true_eq]
    exact hother e he

/-! ## Presence -/

/-- There are decoders if they are asked for and one of the statuses is 2xx. -/
theorem isSome_decodersFor {ctx : Context} {id : String} {responses : List ResponseEntry} :
    (ctx.decodersFor id responses).isSome = true ↔
      ctx.settings.generateResponseDecoders = true ∧ ∃ entry ∈ responses,
        entry.status.utf8ByteSize = 3 ∧ entry.status.toList.head? = some '2' := by
  unfold Context.decodersFor
  split
  · next hasked =>
    simp only [hasked, true_and]
    -- without responses there is neither a tree nor a success
    cases responses with
    | nil => simp [firstSuccess?, OperationDecoders.build?]
    | cons entry rest =>
      rw [OperationDecoders.isSome_build? (List.cons_ne_nil entry rest), firstSuccess?,
        List.find?_isSome]
      simp only [ResponseEntry.isSuccess, isSuccessStatus_iff]
  · next hasked =>
    simp [hasked]

/-- The decoders of a descriptor are composed of one for each response. -/
theorem Describes.tree {ctx : Context} {d : Declaration} {op : OperationDescriptor}
    {decoders : OperationDecoders} (hop : Describes ctx d op)
    (present : op.decoders = some decoders) :
    composeDecoders ctx.settings decoders.successStatus op.responses = some decoders.factory := by
  rw [hop.decoders, decodersFor_eq_some] at present
  obtain ⟨entry, -, hstatus, -, htree⟩ := OperationDecoders.exists_of_build? present.2
  rw [hstatus]
  exact htree

/-- The statuses of a descriptor are the declared ones, in their order. -/
theorem Describes.statuses {ctx : Context} {d : Declaration} {op : OperationDescriptor}
    (hop : Describes ctx d op) :
    op.responses.map ResponseEntry.status = d.operation.responses.keys := by
  rw [hop.responses]
  exact map_status_resolveResponses ctx _ _

theorem Describes.nodup_statuses {ctx : Context} {d : Declaration} {op : OperationDescriptor}
    (hop : Describes ctx d op) : (op.responses.map ResponseEntry.status).Nodup := by
  rw [hop.statuses]
  exact d.operation.responses.keys_nodup

/-- The success of a descriptor's decoders is one of the declared statuses. -/
theorem Describes.successStatus_mem {ctx : Context} {d : Declaration} {op : OperationDescriptor}
    {decoders : OperationDecoders} (hop : Describes ctx d op)
    (present : op.decoders = some decoders) :
    decoders.successStatus ∈ d.operation.responses.keys := by
  rw [hop.decoders, decodersFor_eq_some] at present
  obtain ⟨entry, hfirst, hstatus, -⟩ := OperationDecoders.exists_of_build? present.2
  rw [hstatus, ← hop.statuses]
  exact List.mem_map_of_mem (List.mem_of_find?_eq_some hfirst)

/-- The responses and decoders of `op` are those that the declaration `d` asks for. -/
structure RespondsAs (ctx : Context) (d : Declaration) (op : OperationDescriptor) : Prop where
  declared : d.operation.operationId = some op.operationId ∧ d.path = op.path ∧
    d.method = op.method.name
  /-- The responses are one for each declared status, in the order of declaration. -/
  statuses : op.responses.map ResponseEntry.status = d.operation.responses.keys
  distinct : (op.responses.map ResponseEntry.status).Nodup
  presence : op.decoders.isSome = true ↔
    ctx.settings.generateResponseDecoders = true ∧ ∃ entry ∈ op.responses,
      entry.status.utf8ByteSize = 3 ∧ entry.status.toList.head? = some '2'
  fit : ∀ decoders, op.decoders = some decoders → Fits op.responses decoders

/-- Every descriptor of a run answers to a declaration of the document: it lists the declared
statuses, and its decoders, if it has any, fit them. The declaration is the one that it was built
from, so what is said holds of what the document declares and not only of the descriptor. -/
theorem descriptor_responds_as_declared (ctx : Context) (r : Report Generation)
    (run : generate ctx = .ok r) (op : OperationDescriptor) (member : op ∈ r.value.operations) :
    ∃ d ∈ ctx.document.declarations,
      (buildOperation ctx d).value = some op ∧ RespondsAs ctx d op := by
  obtain ⟨-, rfl⟩ := generate_eq_ok.mp run
  obtain ⟨d, hd, hvalue⟩ := exists_declaration_of_mem member
  have hop := describes_of_build hvalue
  -- the statuses are keys of a table, and so distinct
  have hkeys : op.responses.map ResponseEntry.status = d.operation.responses.keys := by
    rw [hop.responses]
    exact map_status_resolveResponses ctx _ _
  have hnodup : (op.responses.map ResponseEntry.status).Nodup :=
    hkeys ▸ d.operation.responses.keys_nodup
  refine ⟨d, hd, hvalue, ⟨hop.id, hop.path.symm, hop.method.symm⟩, hkeys, hnodup, ?_, ?_⟩
  · rw [hop.decoders]
    exact isSome_decodersFor
  · intro decoders hdecoders
    rw [hop.decoders, Context.decodersFor] at hdecoders
    split at hdecoders
    · exact fits_of_build? hnodup hdecoders
    · cases hdecoders

/-- An operation with two successes, neither of them declared first. -/
def twoSuccesses : Context where
  document :=
    { swagger := some "2.0"
      paths := Keyed.ofList [("/orders", { operations := Keyed.ofList [
        ("post", { operationId := some "order", responses := Keyed.ofList [
          ("404", {}), ("201", {}), ("default", {}), ("200", {})] })] })] }
  settings := {}
  mapper := TypeMapper.standard

/-- A run with two statuses for success, of which the first declared is decoded as such. -/
theorem twoSuccesses_responds_as_declared : ∃ r op, generate twoSuccesses = .ok r ∧
    op ∈ r.value.operations ∧ ∃ d ∈ twoSuccesses.document.declarations,
      (buildOperation twoSuccesses d).value = some op ∧ RespondsAs twoSuccesses d op := by
  obtain ⟨op, hop⟩ : ∃ op, op ∈ (generateAll twoSuccesses).value.operations :=
    List.exists_mem_of_length_pos (by decide)
  exact ⟨_, op, rfl, hop, descriptor_responds_as_declared twoSuccesses _ rfl op hop⟩

example : (generateAll twoSuccesses).value.operations.map (fun op =>
    op.decoders.map fun decoders => (decoders.successStatus, decoders.factory.leaves)) =
    [some ("201", [.basicError "404", .io "201" .generic, .basicError "default",
      .constant "200" "undefined"])] := by decide

end ServiceContract
