import ServiceContract.Proofs.Parameters
import ServiceContract.Proofs.Walk

/-!
# The imports of a run

A descriptor imports the definitions that its operation refers to, in a parameter of its path, in a
parameter of its own or in a response, and nothing else. A reference counts only if the document
defines its target, so whatever is imported is a model of the run as well. A run imports what its
descriptors import: operations that are left out leave nothing behind.

Main results:

* `mem_imports_iff`  — what a built descriptor imports.
* `imports_closed`   — for all runs: imports are a union, are models, and are what is referred to.
-/

namespace ServiceContract

/-- What a declaration refers to: in the parameters of its path, in its own, or in a response. -/
def Document.References (document : Document) (d : Declaration) (name : String) : Prop :=
  (∃ p ∈ d.item.parameters ++ d.operation.parameters, document.RefersTo p name) ∨
    ∃ declared ∈ d.operation.responses.entries,
      document.PointsTo (declared.2.schema.bind Schema.reference) name

/-- A reference ends at a definition of the document. -/
theorem Document.defines_of_references {document : Document} {d : Declaration} {name : String}
    (h : document.References d name) : document.defines name = true := by
  rcases h with ⟨p, -, hrefers⟩ | ⟨declared, -, hpoints⟩
  · exact hrefers.defines
  · exact hpoints.2

/-- A built descriptor imports what its declaration refers to. -/
theorem mem_imports_iff {ctx : Context} {d : Declaration} {op : OperationDescriptor}
    (h : (buildOperation ctx d).value = some op) {name : String} :
    name ∈ op.imports.names ↔ ctx.document.References d name := by
  rw [(describes_of_build h).imports, Context.parametersOf, mem_models_collectParameters,
    mem_models_resolveResponses]
  simp only [modelOf?_eq_some]
  rfl

/-- Definitions become models under their names, each once. -/
theorem count_name_models {document : Document} {name : String} (strict : Bool)
    (h : document.defines name = true) :
    ((document.models strict).map ModelDescriptor.name).count name = 1 := by
  have hnames : (document.models strict).map ModelDescriptor.name = document.definitions.keys :=
    List.map_map
  have hmem : name ∈ document.definitions.keys := by
    obtain ⟨entry, hentry, hkey⟩ := List.any_eq_true.mp h
    exact List.mem_map.mpr ⟨entry, hentry, beq_iff_eq.mp hkey⟩
  rw [hnames, document.definitions.keys_nodup.count, if_pos hmem]

/-- What the imports of a run are. -/
structure ImportsClosed (ctx : Context) (g : Generation) : Prop where
  /-- They are the imports of its descriptors. -/
  union : ∀ name, name ∈ g.imports.names ↔ ∃ op ∈ g.operations, name ∈ op.imports.names
  /-- Each of them is the name of one model. -/
  modelled : ∀ name ∈ g.imports.names, (g.models.map ModelDescriptor.name).count name = 1
  /-- A descriptor imports exactly what the operation it is built from refers to. -/
  referenced : ∀ op ∈ g.operations, ∃ d ∈ ctx.document.declarations,
    (buildOperation ctx d).value = some op ∧
    ∀ name, name ∈ op.imports.names ↔ ctx.document.References d name

/-- The imports of every run are closed: they are those of its descriptors taken together, each has
one model among those handed on, and those of a descriptor are the definitions that its declaration
refers to. -/
theorem imports_closed (ctx : Context) (r : Report Generation) (run : generate ctx = .ok r) :
    ImportsClosed ctx r.value := by
  obtain ⟨-, rfl⟩ := generate_eq_ok.mp run
  refine ⟨fun name => mem_imports_generateAll, fun name hname => ?_, fun op hop => ?_⟩
  · -- what is imported is referred to, and so defined
    obtain ⟨op, hop, hname⟩ := mem_imports_generateAll.mp hname
    obtain ⟨d, -, hvalue⟩ := exists_declaration_of_mem hop
    exact count_name_models _
      (Document.defines_of_references ((mem_imports_iff hvalue).mp hname))
  · obtain ⟨d, hd, hvalue⟩ := exists_declaration_of_mem hop
    exact ⟨d, hd, hvalue, fun name => mem_imports_iff hvalue⟩

/-- An operation that refers to definitions in each of the three ways: through a shared parameter
of its path, in the schema of a parameter of its own, and in a response. A second operation takes
its id and refers to a fourth definition. -/
def referring : Context where
  document :=
    { swagger := some "2.0"
      definitions := Keyed.ofList
        [("Page", .object []), ("Order", .object []), ("Receipt", .object []), ("Log", .object [])]
      parameters := some (Keyed.ofList
        [("paging", { schema := some ⟨some "#/definitions/Page", none, none⟩ })])
      paths := Keyed.ofList [("/orders", {
        parameters := [{ reference := some "#/parameters/paging" }]
        operations := Keyed.ofList [
          ("post", {
            operationId := some "order"
            parameters := [{ name := some "body",
                             schema := some ⟨some "#/definitions/Order", none, none⟩ }]
            responses := Keyed.ofList
              [("200", { schema := some ⟨some "#/definitions/Receipt", none, none⟩ })] }),
          ("put", {
            operationId := some "order"
            responses := Keyed.ofList
              [("200", { schema := some ⟨some "#/definitions/Log", none, none⟩ })] })] })] }
  settings := {}
  mapper := TypeMapper.standard

/-- A run whose operation refers to definitions from a parameter, a shared parameter and a
response. -/
theorem referring_imports_closed :
    ∃ r, generate referring = .ok r ∧ ImportsClosed referring r.value :=
  ⟨_, rfl, imports_closed referring _ rfl⟩

example : (generateAll referring).value.imports.names = ["Order", "Page", "Receipt"] := by
  decide +kernel

end ServiceContract
