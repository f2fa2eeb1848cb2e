import ServiceContract.Resolve.Context
import ServiceContract.Resolve.Security
import ServiceContract.Text.Case

/-!
# Parameters

A declared parameter becomes an entry with a name, an output type and a location, or is skipped. The
entries of a path, of authentication and of an operation are merged by name.
-/

namespace ServiceContract

/-- An entry of an operation's merged parameters. -/
structure ParameterEntry where
  name : String
  required : Bool
  type : String
  location : ParameterLocation
  deriving DecidableEq, Repr, Inhabited

/-- The entry for an authentication header: a text that is always required. -/
def AuthHeader.entry (header : AuthHeader) : ParameterEntry :=
  ⟨header.name, true, "string", .header⟩

/-- The definition that a shared parameter's pointer refers to. -/
def Context.sharedDefinition? (ctx : Context) (shared : Parameter) : Option String :=
  match shared.pointer.bind Reference.ofPointer? with
  | some ⟨.definition, name⟩ => if ctx.document.defines name then some name else none
  | _ => none

/-- The output type of the shared parameter `name`: the type it states, or the definition it refers
to. -/
def resolveSharedType (ctx : Context) (scope name : String) (shared : Parameter) :
    Report (Option String) :=
  match shared.inlineType with
  | some type => pure (some (ctx.mapper.inlineType type shared.itemType))
  | none =>
    match ctx.sharedDefinition? shared with
    | some definition => do
      Report.mention definition
      pure (some definition)
    | none => Report.skip scope (.untypedSharedParameter name)

/-- Resolves a parameter that states its type in place. -/
def resolveInline (ctx : Context) (scope : String) (p : Parameter) (type : String) :
    Report (Option ParameterEntry) :=
  match p.name with
  | none => Report.skip scope .unnamedParameter
  | some name => pure (some
      { name
        required := p.required
        type := ctx.mapper.inlineType type p.itemType
        location := p.location.getD .other })

/-- Resolves a parameter that refers to the definition `name`. -/
def resolveDefinition (ctx : Context) (scope : String) (p : Parameter) (label name : String) :
    Report (Option ParameterEntry) :=
  if ctx.document.defines name then do
    Report.mention name
    pure (some
      { name := p.name.getD (Text.uncapitalize name)
        required := p.required
        type := name
        location := p.location.getD .body })
  else Report.skip scope (.unknownDefinition label name)

/-- Resolves a parameter that refers to the shared parameter `name`. Of its own it keeps only its
name. -/
def resolveShared (ctx : Context) (scope : String) (p : Parameter) (name : String) :
    Report (Option ParameterEntry) :=
  match ctx.document.sharedParameter? name with
  | none => Report.skip scope (.unknownSharedParameter name)
  | some shared => do
    let type ← resolveSharedType ctx scope name shared
    pure (type.map fun type =>
      { name := (p.name <|> shared.name).getD (Text.uncapitalize name)
        required := shared.required
        type
        location := shared.location.getD .other })

/-- What diagnostics call a parameter. -/
def Parameter.label (p : Parameter) : String := p.name.getD "<unnamed>"

/-- Resolves a declared parameter: by the type it states in place, else by what it refers to. -/
def resolveParameter (ctx : Context) (scope : String) (p : Parameter) :
    Report (Option ParameterEntry) :=
  match p.inlineType with
  | some type => resolveInline ctx scope p type
  | none =>
    match p.pointer with
    | none => Report.skip scope (.untypedParameter p.label)
    | some pointer =>
      match Reference.ofPointer? pointer with
      | none => Report.skip scope (.unresolvableReference p.label pointer)
      | some ⟨.definition, name⟩ => resolveDefinition ctx scope p p.label name
      | some ⟨.parameter, name⟩ => resolveShared ctx scope p name
      | some ⟨.other, _⟩ => Report.skip scope (.foreignReference p.label pointer)

/-! ## What a parameter is typed by -/

/-- A parameter states its type, or it refers to a definition or to a shared parameter, or nothing
types it. -/
inductive Parameter.Typing (p : Parameter) : Prop
  | stated (type : String) (states : p.inlineType = some type)
  | definition (name : String) (untyped : p.inlineType = none)
      (reference : p.pointer.bind Reference.ofPointer? = some ⟨.definition, name⟩)
  | parameter (key : String) (untyped : p.inlineType = none)
      (reference : p.pointer.bind Reference.ofPointer? = some ⟨.parameter, key⟩)
  | nothing (untyped : p.inlineType = none)
      (foreign : ∀ r, p.pointer.bind Reference.ofPointer? = some r → r.category = .other)

/-- Every parameter has one of the four typings: a stated type comes first, then what its pointer
refers to. The cases of the resolver are these, so proofs about it go through them. -/
theorem Parameter.typing (p : Parameter) : p.Typing := by
  cases htype : p.inlineType with
  | some type => exact .stated type htype
  | none =>
    cases hreference : p.pointer.bind Reference.ofPointer? with
    | none =>
      refine .nothing htype fun r hr => ?_
      cases hreference.symm.trans hr
    | some reference =>
      obtain ⟨category, name⟩ := reference
      cases category with
      | definition => exact .definition name htype hreference
      | parameter => exact .parameter name htype hreference
      | other =>
        refine .nothing htype fun r hr => ?_
        cases hreference.symm.trans hr
        rfl

section Typing

variable {ctx : Context} {scope : String} {p : Parameter}

/-- A stated type decides, whatever the parameter refers to besides. -/
theorem resolveParameter_of_stated {type : String} (states : p.inlineType = some type) :
    resolveParameter ctx scope p = resolveInline ctx scope p type := by
  simp only [resolveParameter, states]

/-- A reference to a definition counts only if no type is stated. -/
theorem resolveParameter_of_definition {name : String} (untyped : p.inlineType = none)
    (reference : p.pointer.bind Reference.ofPointer? = some ⟨.definition, name⟩) :
    resolveParameter ctx scope p = resolveDefinition ctx scope p p.label name := by
  obtain ⟨pointer, hpointer, hreference⟩ := Option.bind_eq_some_iff.mp reference
  simp only [resolveParameter, untyped, hpointer, hreference]

theorem resolveParameter_of_parameter {key : String} (untyped : p.inlineType = none)
    (reference : p.pointer.bind Reference.ofPointer? = some ⟨.parameter, key⟩) :
    resolveParameter ctx scope p = resolveShared ctx scope p key := by
  obtain ⟨pointer, hpointer, hreference⟩ := Option.bind_eq_some_iff.mp reference
  simp only [resolveParameter, untyped, hpointer, hreference]

/-- What nothing types is skipped, for the same reason wherever it is resolved. -/
theorem exists_skip_of_nothing (untyped : p.inlineType = none)
    (foreign : ∀ r, p.pointer.bind Reference.ofPointer? = some r → r.category = .other) :
    ∃ issue, (issue = .untypedParameter p.label ∨
        ∃ pointer, issue = .unresolvableReference p.label pointer ∨
          issue = .foreignReference p.label pointer) ∧
      ∀ ctx scope, resolveParameter ctx scope p = Report.skip scope issue := by
  -- there is no pointer, or it cannot be read, or it refers to something else
  cases hpointer : p.pointer with
  | none =>
    refine ⟨_, Or.inl rfl, fun ctx scope => ?_⟩
    simp only [resolveParameter, untyped, hpointer]
  | some pointer =>
    cases hreference : Reference.ofPointer? pointer with
    | none =>
      refine ⟨_, Or.inr ⟨pointer, Or.inl rfl⟩, fun ctx scope => ?_⟩
      simp only [resolveParameter, untyped, hpointer, hreference]
    | some reference =>
      have hother := foreign reference (by rw [hpointer, Option.bind_some, hreference])
      obtain ⟨category, name⟩ := reference
      cases hother
      refine ⟨_, Or.inr ⟨pointer, Or.inr rfl⟩, fun ctx scope => ?_⟩
      simp only [resolveParameter, untyped, hpointer, hreference]

end Typing

/-- Entries merged by name: a later one takes the place of an earlier one with its name. -/
def mergeEntries (entries : List ParameterEntry) : List ParameterEntry :=
  (Keyed.ofList (entries.map fun entry => (entry.name, entry))).values

/-- The parameters of an operation: those of its path, then authentication, then its own. -/
def collectParameters (ctx : Context) (scope : String) (path : List Parameter)
    (auth : List AuthHeader) (own : List Parameter) : Report (List ParameterEntry) := do
  -- authentication resolves to entries without a look at the document
  let path ← Report.keep (resolveParameter ctx scope) path
  let own ← Report.keep (resolveParameter ctx scope) own
  pure (mergeEntries (path ++ auth.map AuthHeader.entry ++ own))

end ServiceContract
