import ServiceContract.Proofs.PathItems
import ServiceContract.Proofs.Walk

/-!
# What becomes of the operations of a JSON document

A member of a path item that is read as an operation is accounted for: it gets a descriptor, or a
diagnostic says that it does not. But not every member whose key names a method is read. One that is
no object is passed over, and one that is followed by another for the same method is overwritten.
Both happen without a word: the run is the same whatever the value is, in its descriptors as in what
it reports of operations that are left out.

Main results:

* `Document.readParts_only`         — reading never reports that an operation is left out.
* `built_or_skipped`                — a declaration of a document is accounted for.
* `generate_accounts_for_declaring` — which members are accounted for, and that the others leave no
  trace.
* `number_unreported`               — a run that drops a member and reports nothing.
-/

namespace ServiceContract

/-! ## What reading reports -/

/-- A part that is no object is reported as such and read as empty. -/
theorem readObject_made (part : Subject) (scope : String) (value : Option Json) :
    (readObject part scope value).MadeOf Issue.KeepsOperation := by
  unfold readObject
  split
  · exact Report.MadeOf.pure _
  · exact Report.MadeOf.pure _
  · exact Report.MadeOf.pure _
  all_goals exact Report.MadeOf.bind (Report.MadeOf.warn _ rfl) fun _ => Report.MadeOf.pure _

theorem readTable_made {α : Type} (read : Json → Except Mismatch α) (part : Subject)
    (scope : String) (value : Option Json) :
    (readTable read part scope value).MadeOf Issue.KeepsOperation := by
  refine Report.MadeOf.bind (readObject_made part scope value) fun members => ?_
  cases members with
  | none => exact Report.MadeOf.pure _
  | some members =>
    refine Report.MadeOf.bind (Report.MadeOf.keep fun entry _ => ?_) fun _ => Report.MadeOf.pure _
    unfold readEntry
    split
    · exact Report.MadeOf.pure _
    · exact Report.MadeOf.bind (Report.MadeOf.warn _ rfl) fun _ => Report.MadeOf.pure _

theorem readSequence_made {α : Type} (read : Json → Except Mismatch α) (part : Subject)
    (scope : String) (value : Option Json) :
    (readSequence read part scope value).MadeOf Issue.KeepsOperation := by
  unfold readSequence
  split
  · exact Report.MadeOf.pure _
  · exact Report.MadeOf.pure _
  · refine Report.MadeOf.map _ (Report.MadeOf.keep fun element _ => ?_)
    unfold readElement
    split
    · exact Report.MadeOf.pure _
    · exact Report.MadeOf.bind (Report.MadeOf.warn _ rfl) fun _ => Report.MadeOf.pure _
  all_goals exact Report.MadeOf.bind (Report.MadeOf.warn _ rfl) fun _ => Report.MadeOf.pure _

theorem Operation.read_made (method path : String) (value : Json) :
    (Operation.read method path value).MadeOf Issue.KeepsOperation := by
  refine Report.MadeOf.bind (readSequence_made _ _ _ _) fun _ => ?_
  refine Report.MadeOf.bind (readTable_made _ _ _ _) fun _ => ?_
  exact Report.MadeOf.bind (readSequence_made _ _ _ _) fun _ => Report.MadeOf.pure _

theorem PathItem.readMembers_made (path : String) (acc : PathItem)
    (members : List (String × Json)) :
    (PathItem.readMembers path acc members).MadeOf Issue.KeepsOperation := by
  induction members generalizing acc with
  | nil => exact Report.MadeOf.pure _
  | cons member rest ih =>
    unfold PathItem.readMembers
    split
    · exact ih acc
    · exact Report.MadeOf.bind (readSequence_made _ _ _ _) fun _ => ih _
    · exact Report.MadeOf.bind (Report.MadeOf.log _ (by decide)) fun _ => ih acc
    · exact Report.MadeOf.bind (Operation.read_made _ _ _) fun _ => ih _

/-- A path item that is no object has no operations, which is not reported as leaving one out. -/
theorem PathItem.read_made (path : String) (value : Json) :
    (PathItem.read path value).MadeOf Issue.KeepsOperation := by
  unfold PathItem.read
  split
  · exact PathItem.readMembers_made path {} _
  all_goals exact Report.MadeOf.bind (Report.MadeOf.warn _ rfl) fun _ => Report.MadeOf.pure _

/-- Reading a document never reports that an operation is left out. All such reports come from the
walk. -/
theorem Document.readParts_made (raw : Json) :
    (Document.readParts raw).MadeOf Issue.KeepsOperation := by
  -- part by part, in the order in which they are read
  refine Report.MadeOf.bind (readObject_made _ _ _) fun paths => ?_
  refine Report.MadeOf.bind (Report.MadeOf.each fun entry _ => ?_) fun _ => ?_
  · exact Report.MadeOf.bind (PathItem.read_made _ _) fun _ => Report.MadeOf.pure _
  refine Report.MadeOf.bind (readObject_made _ _ _) fun _ => ?_
  refine Report.MadeOf.bind (readTable_made _ _ _ _) fun _ => ?_
  refine Report.MadeOf.bind (readTable_made _ _ _ _) fun _ => ?_
  exact Report.MadeOf.bind (readSequence_made _ _ _ _) fun _ => Report.MadeOf.pure _

/-- Reading never reports that an operation is left out. -/
theorem Document.readParts_only (raw : Json) : (Document.readParts raw).LeavesNoneOut :=
  (Document.readParts_made raw).only

/-! ## Declarations -/

/-- The diagnostic says that the declaration gets no descriptor. -/
def Diagnostic.Skips (e : Diagnostic) (d : Declaration) : Prop :=
  match d.operation.operationId with
  | none => e = ⟨operationLabel d.method d.path, .noOperationId⟩
  | some id =>
    e = ⟨id, .unsupportedMethod d.method d.path⟩ ∨ e = ⟨id, .duplicateOperationId d.method d.path⟩

/-- What is said of a declaration that is left out names the declaration. -/
theorem skips_of_omission? {earlier : List Declaration} {d : Declaration} {e : Diagnostic}
    (h : d.omission? earlier = some e) : e.Skips d := by
  rw [Declaration.omission?] at h
  rw [Diagnostic.Skips]
  -- the three reasons for leaving an operation out exclude one another
  cases hid : d.operation.operationId with
  | none =>
    rw [hid] at h
    exact (Option.some.inj h).symm
  | some id =>
    simp only [hid] at h
    by_cases hmethod : d.method ∉ ["get", "post", "put", "delete"]
    · rw [if_pos hmethod] at h
      exact Or.inl (Option.some.inj h).symm
    · rw [if_neg hmethod] at h
      by_cases hclaimed : some id ∈ earlier.map Declaration.claim?
      · rw [if_pos hclaimed] at h
        exact Or.inr (Option.some.inj h).symm
      · rw [if_neg hclaimed] at h
        cases h

/-- Where operations are asked for, a declaration of the document gets a descriptor or is reported
as skipped. -/
theorem built_or_skipped (ctx : Context) (wanted : ctx.settings.generateRequestTypes = true)
    {d : Declaration} (hd : d ∈ ctx.document.declarations) :
    (∃ op ∈ (generateOperations ctx).value, (buildOperation ctx d).value = some op) ∨
      ∃ e ∈ (generateOperations ctx).findings.diagnostics, e.Skips d := by
  obtain ⟨before, after, hsplit⟩ := List.append_of_mem hd
  have hplace : (before, d) ∈ withEarlier [] ctx.document.declarations :=
    mem_withEarlier.mpr ⟨before, after, hsplit, rfl⟩
  -- what becomes of `d` is settled by the declarations before it
  cases homission : d.omission? before with
  | none =>
    left
    have hkept : d ∈ kept [] ctx.document.declarations :=
      List.mem_map.mpr ⟨(before, d), List.mem_filter.mpr ⟨hplace, by simp [homission]⟩, rfl⟩
    have hmem := List.mem_map_of_mem (f := fun d => (buildOperation ctx d).value) hkept
    rw [← generateOperations_map_some wanted] at hmem
    obtain ⟨op, hop, hvalue⟩ := List.mem_map.mp hmem
    exact ⟨op, hop, hvalue.symm⟩
  | some e =>
    right
    have hmem : e ∈ omissions [] ctx.document.declarations :=
      List.mem_filterMap.mpr ⟨(before, d), hplace, homission⟩
    rw [← (walkOperations_run ctx covers_nil _).2, ← generateOperations_eq_walk wanted] at hmem
    exact ⟨e, (List.mem_filter.mp hmem).1, skips_of_omission? homission⟩

/-- The walk sees declarations through the builder alone, so contexts that build alike are walked
alike. -/
theorem walkOperations_congr {ctx ctx' : Context}
    (h : ∀ d, buildOperation ctx' d = buildOperation ctx d) (taken : List String)
    (declarations : List Declaration) :
    walkOperations ctx' taken declarations = walkOperations ctx taken declarations := by
  induction declarations generalizing taken with
  | nil => rfl
  | cons d rest ih => simp only [walkOperations, h, ih]

/-- What is walked does not depend on what was skipped on reading. -/
theorem generateOperations_diagnostics (document : Document) (settings : Settings)
    (mapper : TypeMapper) (diagnostics : List Diagnostic) :
    generateOperations ⟨{ document with diagnostics }, settings, mapper⟩ =
      generateOperations ⟨document, settings, mapper⟩ := by
  have hbuild : buildOperation ⟨{ document with diagnostics }, settings, mapper⟩ =
      buildOperation ⟨document, settings, mapper⟩ := buildOperation_of_parts rfl settings mapper
  unfold generateOperations
  rw [walkOperations_congr (congrFun hbuild)]
  rfl

/-! ## A path item in its document -/

/-- The path items of a document that has an object of paths. -/
theorem paths_readParts {root paths : Keyed Json}
    (h : root.get? "paths" = some (.object paths.entries)) :
    (Document.readParts (.object root.entries)).value.paths =
      Keyed.ofList (paths.entries.map fun e => (e.1, (PathItem.read e.1 e.2).value)) := by
  have hread : (readObject .paths documentScope ((Json.object root.entries).get? "paths")).value =
      some paths.entries := by
    rw [show (Json.object root.entries).get? "paths" = some (.object paths.entries) from h]
    rfl
  change Keyed.ofList (Report.each readPath (Option.getD _ [])).value = _
  rw [hread, Option.getD_some, Report.value_each]
  rfl

/-- A document apart from its paths. -/
theorem value_readParts (raw : Json) :
    (Document.readParts raw).value =
      { swagger := versionMarker (raw.get? "swagger")
        openapi := versionMarker (raw.get? "openapi")
        paths := (Document.readParts raw).value.paths
        definitions := Keyed.ofList
          ((readObject .definitions documentScope (raw.get? "definitions")).value.getD [])
        parameters :=
          (readTable Parameter.read .parameter documentScope (raw.get? "parameters")).value
        securitySchemes := (readTable SecurityScheme.read .securityScheme documentScope
          (raw.get? "securityDefinitions")).value.getD Keyed.empty
        security := (readSequence SecurityRequirement.read .securityRequirement documentScope
          (raw.get? "security")).value } := rfl

/-- A document that has an object for `path` among its paths. The members of each object have
distinct keys. -/
structure PlacedItem where
  root : Keyed Json
  paths : Keyed Json
  path : String
  members : Keyed Json
  root_paths : root.get? "paths" = some (.object paths.entries)
  paths_path : paths.get? path = some (.object members.entries)

namespace PlacedItem

/-- The document. -/
def raw (p : PlacedItem) : Json := .object p.root.entries

/-- The document with another value for one member of the path item. -/
def replace (p : PlacedItem) (key : String) (value : Json) : Json :=
  .object (p.root.insert "paths" (.object (p.paths.insert p.path
    (.object (p.members.insert key value).entries)).entries)).entries

/-- The operation of `method`, as it is read from `value`. -/
def declaration (p : PlacedItem) (method : String) (value : Json) : Declaration where
  path := p.path
  item := (PathItem.read p.path (.object p.members.entries)).value
  method := method
  operation := (Operation.read method p.path value).value

/-- What is read from the declaring member is a declaration of the document. -/
theorem declaration_mem (p : PlacedItem) {method : String} (hmethod : method ∈ methodNames)
    {member : String × Json} (h : declaring? p.members.entries method = some member) :
    p.declaration method member.2 ∈ (Document.read p.raw).value.declarations := by
  have hoperation := get?_operations_readItem hmethod p.path p.members
  rw [h, Option.map_some, ← Keyed.mem_entries_iff] at hoperation
  refine List.mem_flatMap.mpr ⟨(p.path, _), ?_, List.mem_map.mpr ⟨_, hoperation, rfl⟩⟩
  have hnodup : ((p.paths.entries.map fun e =>
      (e.1, (PathItem.read e.1 e.2).value)).map (·.1)).Nodup := by
    rw [List.map_map]
    exact p.paths.nodup
  change _ ∈ (Document.readParts p.raw).value.paths.entries
  rw [raw, paths_readParts p.root_paths, Keyed.mem_entries_ofList hnodup]
  exact List.mem_map.mpr ⟨_, Keyed.mem_entries_iff.mpr p.paths_path, rfl⟩

/-- The document with other members in the path item. -/
def withMembers (p : PlacedItem) (members : Keyed Json) : Json :=
  .object (p.root.insert "paths" (.object (p.paths.insert p.path
    (.object members.entries)).entries)).entries

/-- A document with other members in a path item differs from the one it was in its paths only. -/
theorem get?_withMembers (p : PlacedItem) (members : Keyed Json) (key : String) :
    (p.withMembers members).get? key =
      if key = "paths" then
        some (.object (p.paths.insert p.path (.object members.entries)).entries)
      else p.raw.get? key :=
  Keyed.get?_insert p.root "paths" key _

/-- Other members that leave the path item as it is leave the document as it is. -/
theorem readParts_withMembers (p : PlacedItem) {members : Keyed Json}
    (h : (PathItem.read p.path (.object members.entries)).value =
      (PathItem.read p.path (.object p.members.entries)).value) :
    (Document.readParts (p.withMembers members)).value = (Document.readParts p.raw).value := by
  -- the entry of the path stays at its place and is read as the same item
  have hpaths : (Document.readParts (p.withMembers members)).value.paths =
      (Document.readParts p.raw).value.paths := by
    rw [withMembers, paths_readParts ((Keyed.get?_insert _ _ _ _).trans (if_pos rfl)), raw,
      paths_readParts p.root_paths, Keyed.entries_insert]
    congr 1
    exact map_putEntry p.paths_path (congrArg (Prod.mk p.path) h)
  rw [value_readParts, value_readParts p.raw, hpaths]
  simp only [get?_withMembers, String.reduceEq, if_false]

/-- Another value that leaves the path item as it is leaves the document as it is. -/
theorem readParts_replace (p : PlacedItem) {key : String} {value : Json}
    (h : (PathItem.read p.path (.object (p.members.insert key value).entries)).value =
      (PathItem.read p.path (.object p.members.entries)).value) :
    (Document.readParts (p.replace key value)).value = (Document.readParts p.raw).value :=
  p.readParts_withMembers h

end PlacedItem

/-! ## The run -/

/-- A document with the marker of the supported version is accepted. -/
theorem checkVersion_read {raw : Json} (h : versionMarker (raw.get? "swagger") = some "2.0") :
    (Document.read raw).value.checkVersion = .ok () := by
  have hswagger : (Document.read raw).value.swagger = some "2.0" := h
  rw [Document.checkVersion, hswagger]
  rfl

/-- Two runs hand on the same and report the same of operations that are left out. -/
structure Indistinct (g g' : Generation) : Prop where
  models : g'.models = g.models
  operations : g'.operations = g.operations
  imports : g'.imports = g.imports
  omitted : g'.diagnostics.filter (·.issue.omitsOperation) =
    g.diagnostics.filter (·.issue.omitsOperation)

/-- Documents that differ in what was skipped on reading alone. -/
theorem indistinct_of_readParts {raw raw' : Json} (settings : Settings) (mapper : TypeMapper)
    (h : (Document.readParts raw').value = (Document.readParts raw).value) :
    Indistinct (generateAll ⟨(Document.read raw).value, settings, mapper⟩).value
      (generateAll ⟨(Document.read raw').value, settings, mapper⟩).value := by
  have hwalk : generateOperations ⟨(Document.read raw').value, settings, mapper⟩ =
      generateOperations ⟨(Document.read raw).value, settings, mapper⟩ := by
    rw [Document.read, Document.read]
    simp only [generateOperations_diagnostics, h]
  -- reading reports may differ, but they are not about operations that are left out
  have hread : ∀ raw, (Document.read raw).value.diagnostics.filter
      (·.issue.omitsOperation) = [] := by
    intro raw
    rw [List.filter_eq_nil_iff]
    intro e he
    rw [Document.readParts_only raw e he]
    exact Bool.false_ne_true
  have hmodels : (Document.readParts raw').value.models settings.strictInterfaces =
      (Document.readParts raw).value.models settings.strictInterfaces := by rw [h]
  refine ⟨?_, congrArg Report.value hwalk, ?_, ?_⟩
  · exact hmodels
  · change ImportSet.ofList ((generateOperations _).value.flatMap _) =
      ImportSet.ofList ((generateOperations _).value.flatMap _)
    rw [hwalk]
  · rw [diagnostics_generateAll, diagnostics_generateAll, List.filter_append, List.filter_append,
      hread, hread, hwalk]

/-- A member whose key names a method is accounted for if it declares that method. Otherwise no
value of its kind makes a difference, neither to what is handed on nor to what is reported as left
out. The document has to be of the supported version and operations have to be asked for: a run that
refuses the document or walks nothing accounts for no member. -/
theorem generate_accounts_for_declaring (p : PlacedItem) (settings : Settings)
    (mapper : TypeMapper) {key : String} {value : Json}
    (version : versionMarker (p.raw.get? "swagger") = some "2.0")
    (wanted : settings.generateRequestTypes = true)
    (hmember : p.members.get? key = some value)
    (hmethod : Text.asciiLower key ∈ methodNames) :
    ∃ r, generate ⟨(Document.read p.raw).value, settings, mapper⟩ = .ok r ∧
      (declaring? p.members.entries (Text.asciiLower key) = some (key, value) →
        (∃ op ∈ r.value.operations,
          (buildOperation ⟨(Document.read p.raw).value, settings, mapper⟩
            (p.declaration (Text.asciiLower key) value)).value = some op) ∨
        ∃ e ∈ r.value.diagnostics, e.Skips (p.declaration (Text.asciiLower key) value)) ∧
      (declaring? p.members.entries (Text.asciiLower key) ≠ some (key, value) →
        ∀ other : Json, other.isObject = value.isObject →
          ∃ r', generate ⟨(Document.read (p.replace key other)).value, settings, mapper⟩ = .ok r' ∧
            Indistinct r.value r'.value) := by
  refine ⟨_, generate_eq_ok.mpr ⟨checkVersion_read version, rfl⟩, ?_, ?_⟩
  · -- the member is a declaration of the document, and the walk comes to it
    intro hdeclares
    rcases built_or_skipped ⟨_, settings, mapper⟩ wanted
      (p.declaration_mem hmethod hdeclares) with hbuilt | ⟨e, he, hskips⟩
    · exact Or.inl hbuilt
    · exact Or.inr ⟨e, List.mem_append_right _ he, hskips⟩
  · -- the document is the same to the walk, whatever the value
    intro hidle other hkind
    have hparts := p.readParts_replace (value_readItem_insert hmember hmethod hidle hkind p.path)
    have hversion : (Document.read (p.replace key other)).value.checkVersion = .ok () := by
      have hsame : versionMarker ((p.replace key other).get? "swagger") =
          versionMarker (p.raw.get? "swagger") := congrArg Document.swagger hparts
      exact checkVersion_read (hsame.trans version)
    exact ⟨_, generate_eq_ok.mpr ⟨hversion, rfl⟩, indistinct_of_readParts settings mapper hparts⟩

/-- A path with two members for one method. -/
def recased : PlacedItem where
  root := Keyed.ofList [("swagger", .string "2.0"), ("paths", .object [("/p", .object [
    ("GET", .object [("operationId", .string "a")]),
    ("get", .object [("operationId", .string "b")])])])]
  paths := Keyed.ofList [("/p", .object [
    ("GET", .object [("operationId", .string "a")]),
    ("get", .object [("operationId", .string "b")])])]
  path := "/p"
  members := Keyed.ofList [
    ("GET", .object [("operationId", .string "a")]),
    ("get", .object [("operationId", .string "b")])]
  root_paths := rfl
  paths_path := rfl

/-- The first of them leaves no trace. -/
theorem recased_traceless :
    ∃ r, generate ⟨(Document.read recased.raw).value, {}, TypeMapper.standard⟩ = .ok r ∧
      ∀ other : Json, other.isObject = true →
        ∃ r', generate ⟨(Document.read (recased.replace "GET" other)).value, {},
            TypeMapper.standard⟩ = .ok r' ∧
          Indistinct r.value r'.value := by
  have hmethod : Text.asciiLower "GET" ∈ methodNames := by
    rw [Text.asciiLower_eq]
    decide
  obtain ⟨r, hrun, -, htraceless⟩ :=
    generate_accounts_for_declaring recased {} TypeMapper.standard rfl rfl rfl hmethod
  refine ⟨r, hrun, htraceless ?_⟩
  simp only [declaring?, Text.asciiLower_eq]
  decide

/-- A document whose only operation is a number. -/
def numbered : Json :=
  .object [("swagger", .string "2.0"),
    ("paths", .object [("/p", .object [("get", .number (.whole 5))])])]

/-- Its run hands on no descriptor and reports nothing. -/
theorem number_unreported :
    ∃ r, generate ⟨(Document.read numbered).value, {}, TypeMapper.standard⟩ = .ok r ∧
      r.value.operations.map (·.operationId) = [] ∧ r.value.diagnostics = [] := by
  refine ⟨_, generate_eq_ok.mpr ⟨checkVersion_read rfl, rfl⟩, ?_, ?_⟩
  · decide
  · decide

end ServiceContract
