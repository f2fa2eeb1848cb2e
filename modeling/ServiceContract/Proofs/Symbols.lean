import ServiceContract.Proofs.Tables
import ServiceContract.Proofs.Walk

/-!
# The symbols of decoders

An operation with decoders has two symbols, that of the factory and that of the default decoder.
Both are its id with a suffix. The ids of a run are distinct, so neither kind of symbol repeats. But
the longer suffix ends in the shorter one: the default decoder of `get` has the symbol of the
factory of `getDefault`, and only ids that differ by that middle part clash.

Main results:

* `decoderName_eq_defaultDecoderName` — when a factory and a default decoder have one symbol.
* `symbols_by_id`                     — for the descriptors of a run: which symbols clash.
* `twoReaders_clash`                  — a run with a clash.
-/

namespace ServiceContract

/-- Two ids give a factory and a default decoder one symbol if the factory's id is the other with
`Default` after it. -/
theorem decoderName_eq_defaultDecoderName {id id' : String} :
    decoderName id = defaultDecoderName id' ↔ id = id' ++ "Default" := by
  have hsuffix : "DefaultDecoder" = "Default" ++ "Decoder" := rfl
  rw [decoderName, defaultDecoderName, hsuffix, ← String.append_assoc, String.append_left_inj]

/-- The symbols of an operation's decoders are made from its id. -/
theorem OperationDecoders.names_of_build? {settings : Settings} {operationId : String}
    {entries : List ResponseEntry} {success : Option ResponseEntry} {decoders : OperationDecoders}
    (h : OperationDecoders.build? settings operationId entries success = some decoders) :
    decoders.decoderName = operationId ++ "Decoder" ∧
      decoders.defaultDecoderName = operationId ++ "DefaultDecoder" := by
  obtain ⟨entry, -, hbuilt⟩ := Option.bind_eq_some_iff.mp h
  obtain ⟨tree, -, rfl⟩ := Option.map_eq_some_iff.mp hbuilt
  exact ⟨rfl, rfl⟩

/-- In a run both symbols of an operation are its id with an ending. Ids are distinct in a run, so
the names are taken as they are. -/
theorem names_of_decoders {ctx : Context} {op : OperationDescriptor}
    {decoders : OperationDecoders} (h : op ∈ (generateOperations ctx).value)
    (hdecoders : op.decoders = some decoders) :
    decoders.decoderName = op.operationId ++ "Decoder" ∧
      decoders.defaultDecoderName = op.operationId ++ "DefaultDecoder" := by
  obtain ⟨d, -, hvalue⟩ := exists_declaration_of_mem h
  rw [(describes_of_build hvalue).decoders, decodersFor_eq_some] at hdecoders
  exact OperationDecoders.names_of_build? hdecoders.2

/-! ## The symbols of a run -/

/-- The decoders of all descriptors that have some. -/
def Generation.decoders (g : Generation) : List OperationDecoders :=
  g.operations.filterMap OperationDescriptor.decoders

/-- All symbols of a run: those of the factories, then those of the default decoders. -/
def Generation.symbols (g : Generation) : List String :=
  g.decoders.map OperationDecoders.decoderName ++
    g.decoders.map OperationDecoders.defaultDecoderName

/-- Symbols of one kind, made from distinct ids by one suffix, are distinct. -/
theorem nodup_symbols {operations : List OperationDescriptor} {symbol : OperationDecoders → String}
    {suffix : String} (hids : (operations.map OperationDescriptor.operationId).Nodup)
    (hsymbol : ∀ op ∈ operations, ∀ decoders, op.decoders = some decoders →
      symbol decoders = op.operationId ++ suffix) :
    ((operations.filterMap OperationDescriptor.decoders).map symbol).Nodup := by
  have hall : (operations.map fun op => op.operationId ++ suffix).Nodup := by
    refine List.pairwise_map.mpr ((List.pairwise_map.mp hids).imp ?_)
    intro op op' hne heq
    rw [String.append_left_inj] at heq
    exact hne heq
  exact (map_filterMap_sublist hsymbol).nodup hall

/-- The ids of a run's descriptors are distinct, also where none are asked for. -/
theorem nodup_operationIds (ctx : Context) :
    ((generateOperations ctx).value.map OperationDescriptor.operationId).Nodup := by
  unfold generateOperations
  split
  · exact (operationIds_walkOperations ctx [] _).2
  · exact List.nodup_nil

/-- How the symbols of a run go by its ids. -/
structure SymbolsById (g : Generation) : Prop where
  factories : (g.decoders.map OperationDecoders.decoderName).Nodup
  defaults : (g.decoders.map OperationDecoders.defaultDecoderName).Nodup
  /-- A factory and a default decoder have one symbol exactly if the factory's id is the other's
  with `Default` after it. -/
  clash : ∀ op ∈ g.operations, ∀ op' ∈ g.operations, ∀ decoders decoders',
    op.decoders = some decoders → op'.decoders = some decoders' →
    (decoders.decoderName = decoders'.defaultDecoderName ↔
      op.operationId = op'.operationId ++ "Default")
  /-- All symbols are distinct exactly if no two operations with decoders have such ids. -/
  distinct : g.symbols.Nodup ↔ ∀ op ∈ g.operations, ∀ op' ∈ g.operations,
    op.decoders.isSome = true → op'.decoders.isSome = true →
    op.operationId ≠ op'.operationId ++ "Default"

/-- Symbols of one kind never clash, and those of different kinds only by the ids' ends. This is
said of runs, since it rests on their ids being distinct: of two operations with one id only the
first is kept. -/
theorem symbols_by_id (ctx : Context) (r : Report Generation) (run : generate ctx = .ok r) :
    SymbolsById r.value := by
  obtain ⟨-, rfl⟩ := generate_eq_ok.mp run
  have hfactories : ((generateAll ctx).value.decoders.map OperationDecoders.decoderName).Nodup :=
    nodup_symbols (nodup_operationIds ctx) fun op hop decoders hdecoders =>
      (names_of_decoders hop hdecoders).1
  have hdefaults :
      ((generateAll ctx).value.decoders.map OperationDecoders.defaultDecoderName).Nodup :=
    nodup_symbols (nodup_operationIds ctx) fun op hop decoders hdecoders =>
      (names_of_decoders hop hdecoders).2
  have hclash : ∀ op ∈ (generateAll ctx).value.operations,
      ∀ op' ∈ (generateAll ctx).value.operations, ∀ decoders decoders',
      op.decoders = some decoders → op'.decoders = some decoders' →
      (decoders.decoderName = decoders'.defaultDecoderName ↔
        op.operationId = op'.operationId ++ "Default") := by
    intro op hop op' hop' decoders decoders' hdecoders hdecoders'
    rw [(names_of_decoders hop hdecoders).1, (names_of_decoders hop' hdecoders').2]
    exact decoderName_eq_defaultDecoderName
  refine ⟨hfactories, hdefaults, hclash, ?_⟩
  -- with both kinds distinct, what is left is that they have nothing in common
  rw [Generation.symbols, List.nodup_append]
  constructor
  · rintro ⟨-, -, hapart⟩ op hop op' hop' hsome hsome' hid
    obtain ⟨decoders, hdecoders⟩ := Option.isSome_iff_exists.mp hsome
    obtain ⟨decoders', hdecoders'⟩ := Option.isSome_iff_exists.mp hsome'
    have hfactory := List.mem_filterMap.mpr ⟨op, hop, hdecoders⟩
    have hdefault := List.mem_filterMap.mpr ⟨op', hop', hdecoders'⟩
    refine hapart _ (List.mem_map_of_mem hfactory) _ (List.mem_map_of_mem hdefault) ?_
    exact (hclash op hop op' hop' _ _ hdecoders hdecoders').mpr hid
  · intro hids
    refine ⟨hfactories, hdefaults, fun symbol hsymbol symbol' hsymbol' heq => ?_⟩
    obtain ⟨decoders, hmem, rfl⟩ := List.mem_map.mp hsymbol
    obtain ⟨decoders', hmem', rfl⟩ := List.mem_map.mp hsymbol'
    obtain ⟨op, hop, hdecoders⟩ := List.mem_filterMap.mp hmem
    obtain ⟨op', hop', hdecoders'⟩ := List.mem_filterMap.mp hmem'
    exact hids op hop op' hop' (Option.isSome_of_eq_some hdecoders)
      (Option.isSome_of_eq_some hdecoders')
      ((hclash op hop op' hop' _ _ hdecoders hdecoders').mp heq)

/-- Two operations whose ids differ by `Default` at the end, both with a success response. -/
def twoReaders : Context where
  document :=
    { swagger := some "2.0"
      paths := Keyed.ofList [("/orders", { operations := Keyed.ofList [
        ("get", { operationId := some "list", responses := Keyed.ofList [("200", {})] }),
        ("post", { operationId := some "listDefault",
                   responses := Keyed.ofList [("200", {})] })] })] }
  settings := {}
  mapper := TypeMapper.standard

/-- A run with two operations of such ids. -/
theorem twoReaders_symbols_by_id :
    ∃ r, generate twoReaders = .ok r ∧ SymbolsById r.value :=
  ⟨_, rfl, symbols_by_id twoReaders _ rfl⟩

/-- The default decoder of the first has the symbol of the second's factory. -/
theorem twoReaders_clash : ∃ r, generate twoReaders = .ok r ∧ ¬ r.value.symbols.Nodup := by
  refine ⟨_, rfl, ?_⟩
  decide +kernel

end ServiceContract
