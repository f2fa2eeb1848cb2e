import ServiceContract.Build

/-!
# Walking a document

`generate` turns a document into the descriptors of its models and operations. It fails only on the
document's version. Where an operation id repeats, the first operation that is built keeps it.

## Results

* `mem_imports_generateAll` — the imports of a run are those of its descriptors.
* `generate_eq_ok`          — a run succeeds on the supported version only, and there always.
-/

namespace ServiceContract

/-- Builds operations one after the other and keeps those whose ids are not among `taken` and not
those of earlier ones. -/
def walkOperations (ctx : Context) (taken : List String) :
    List Declaration → Report (List OperationDescriptor)
  | [] => pure []
  | d :: rest => do
    match ← buildOperation ctx d with
    | none => walkOperations ctx taken rest
    | some built =>
      -- what building it reported stays, what it mentioned does not
      if taken.contains built.operationId then
        Report.warn built.operationId (.duplicateOperationId d.method d.path)
        walkOperations ctx taken rest
      else
        let later ← walkOperations ctx (built.operationId :: taken) rest
        pure (built :: later)

/-- The descriptors of a document's models. -/
def Document.models (d : Document) (strict : Bool) : List ModelDescriptor :=
  d.definitions.entries.map fun (name, schema) => ⟨name, schema, strict⟩

/-- The descriptors of a document's operations, unless the settings leave operations out. -/
def generateOperations (ctx : Context) : Report (List OperationDescriptor) :=
  if ctx.settings.generateRequestTypes then walkOperations ctx [] ctx.document.declarations
  else do
    Report.log .info
      ("Request types disabled; skipping " ++ toString ctx.document.paths.size ++ " paths")
    pure []

/-- The descriptors of a document of the supported version. Its own diagnostics come first. -/
def generateAll (ctx : Context) : Report Generation :=
  let operations := generateOperations ctx
  let generation : Generation :=
    { models := ctx.document.models ctx.settings.strictInterfaces
      operations := operations.value
      imports := ImportSet.ofList (operations.value.flatMap fun op => op.imports.names)
      diagnostics := ctx.document.diagnostics ++ operations.findings.diagnostics }
  do
    let _ ← operations
    Report.log .info
      ("Generated " ++ toString ctx.document.definitions.size ++ " models, "
        ++ toString generation.operations.length ++ " operations, "
        ++ toString generation.imports.names.length ++ " imports ("
        ++ toString generation.diagnostics.length ++ " diagnostics)")
    pure generation

/-- The descriptors of a document, if its version is the supported one. -/
def generate (ctx : Context) : Except VersionFault (Report Generation) := do
  ctx.document.checkVersion
  pure (generateAll ctx)

/-- What a run hands on, part by part. Only the operations and the second half of the diagnostics
come from the walk. -/
theorem value_generateAll (ctx : Context) :
    (generateAll ctx).value =
      { models := ctx.document.models ctx.settings.strictInterfaces
        operations := (generateOperations ctx).value
        imports := ImportSet.ofList
          ((generateOperations ctx).value.flatMap fun op => op.imports.names)
        diagnostics :=
          ctx.document.diagnostics ++ (generateOperations ctx).findings.diagnostics } := rfl

@[simp] theorem models_generateAll (ctx : Context) :
    (generateAll ctx).value.models = ctx.document.models ctx.settings.strictInterfaces := rfl

@[simp] theorem operations_generateAll (ctx : Context) :
    (generateAll ctx).value.operations = (generateOperations ctx).value := rfl

@[simp] theorem diagnostics_generateAll (ctx : Context) :
    (generateAll ctx).value.diagnostics =
      ctx.document.diagnostics ++ (generateOperations ctx).findings.diagnostics := rfl

/-- The imports of a run are those of its descriptors. -/
theorem mem_imports_generateAll {ctx : Context} {name : String} :
    name ∈ (generateAll ctx).value.imports.names ↔
      ∃ op ∈ (generateOperations ctx).value, name ∈ op.imports.names := by
  change name ∈ (ImportSet.ofList _).names ↔ _
  rw [ImportSet.mem_ofList, List.mem_flatMap]

/-- A run succeeds on the supported version only, and there always. -/
theorem generate_eq_ok {ctx : Context} {r : Report Generation} :
    generate ctx = .ok r ↔ ctx.document.checkVersion = .ok () ∧ r = generateAll ctx := by
  unfold generate
  cases ctx.document.checkVersion with
  | error fault => simp [bind, Except.bind]
  | ok _ => simp [bind, Except.bind, pure, Except.pure, eq_comm]

/-- A run fails on the version alone. -/
theorem generate_eq_error {ctx : Context} {fault : VersionFault} :
    generate ctx = .error fault ↔ ctx.document.checkVersion = .error fault := by
  unfold generate
  cases ctx.document.checkVersion with
  | error cause => simp [bind, Except.bind]
  | ok _ => simp [bind, Except.bind, pure, Except.pure]

end ServiceContract
