import ServiceContract.Proofs.SharedParameters

/-!
# One rule for references to definitions

A pointer can stand in a response, in a shared parameter, or in a parameter of an operation. Each of
the three has a look-up of its own for it, with a default of its own where it finds nothing: the
response gets a type from the settings, the parameters are skipped. What they find is the same. A
pointer leads to the definition that it is a reference to, if the document has it, and to nothing
else. Only a parameter's pointer may also lead on to a shared parameter.

Main results:

* `responseTypedBy_iff`       — which definition a response is typed by.
* `parameterTypedBy_iff`      — which definition a parameter is typed by.
* `definition_lookups_agree`  — with the same pointer, all three are typed by the same definition.
-/

namespace ServiceContract

/-- The declared response has the type `name`, and the model of this name is imported for it. -/
def Context.ResponseTypedBy (ctx : Context) (scope : String) (declared : String × Response)
    (name : String) : Prop :=
  (resolveResponse ctx scope declared).value.type = name ∧
    name ∈ (resolveResponse ctx scope declared).findings.models

/-- The parameter resolves to an entry of the type `name`, and the model of this name is imported for
it. -/
def Context.ParameterTypedBy (ctx : Context) (scope : String) (p : Parameter) (name : String) :
    Prop :=
  (∃ e, (resolveParameter ctx scope p).value = some e ∧ e.type = name) ∧
    name ∈ (resolveParameter ctx scope p).findings.models

variable {ctx : Context} {scope name : String}

/-- A response is typed by the definition that its schema refers to. A default type is imported for
none, even if a definition has its name. -/
theorem responseTypedBy_iff {declared : String × Response} :
    ctx.ResponseTypedBy scope declared name ↔
      ctx.document.PointsTo (declared.2.schema.bind Schema.reference) name := by
  obtain ⟨hvalue, hmodels⟩ := resolveResponse_spec ctx scope declared
  rw [Context.ResponseTypedBy, hvalue, hmodels, Option.mem_toList, ← modelOf?_eq_some]
  -- what is imported decides: the type alone could be a default of the same name
  constructor
  · exact And.right
  · intro hmodel
    exact ⟨by rw [Context.entryOf_of_some hmodel], hmodel⟩

/-- A parameter is typed by the definition that it refers to. -/
theorem parameterTypedBy_iff {p : Parameter} :
    ctx.ParameterTypedBy scope p name ↔ ctx.document.RefersTo p name := by
  rw [Context.ParameterTypedBy, mem_models_resolveParameter]
  constructor
  · exact And.right
  · intro hrefers
    exact ⟨exists_entry_of_refersTo scope hrefers, hrefers⟩

section Links

variable {document : Document} {p : Parameter} (untyped : p.inlineType = none)

include untyped

/-- A parameter that leads to a shared one refers to what that one points to. -/
theorem Document.refersTo_iff_of_shared {key : String} {shared : Parameter}
    (reference : p.pointer.bind Reference.ofPointer? = some ⟨.parameter, key⟩)
    (found : document.sharedParameter? key = some shared)
    (untypedShared : shared.inlineType = none) :
    document.RefersTo p name ↔ document.PointsTo shared.pointer name := by
  rw [Document.refersTo_iff untyped]
  -- a pointer is a reference of one kind, and to one name
  constructor
  · rintro (⟨hdefinition, -⟩ | ⟨key', target, hreference, hfound, -, hpoints⟩)
    · cases reference.symm.trans hdefinition
    · cases reference.symm.trans hreference
      cases found.symm.trans hfound
      exact hpoints
  · intro hpoints
    exact Or.inr ⟨key, shared, reference, found, untypedShared, hpoints⟩

/-- A parameter that leads to no shared one refers to what it points to itself. -/
theorem Document.refersTo_iff_of_not_shared
    (direct : ∀ key, p.pointer.bind Reference.ofPointer? ≠ some ⟨.parameter, key⟩) :
    document.RefersTo p name ↔ document.PointsTo p.pointer name := by
  rw [Document.refersTo_iff untyped]
  constructor
  · rintro (hpoints | ⟨key, -, hreference, -⟩)
    · exact hpoints
    · exact absurd hreference (direct key)
  · exact Or.inl

end Links

/-- What carries the pointer is typed by the definition `name`, and has it imported, exactly if the
pointer is a reference to this definition and the document has it. The pointer of a parameter is its
own or, if it has none, that of its schema. -/
structure LookupsAgree (ctx : Context) (pointer name : String) : Prop where
  response : ∀ (scope status : String) (response : Response),
    response.schema.bind Schema.reference = some pointer →
    (ctx.ResponseTypedBy scope (status, response) name ↔
      Reference.ofPointer? pointer = some ⟨.definition, name⟩ ∧ ctx.document.defines name = true)
  /-- A reference to the shared parameter that carries it. -/
  shared : ∀ (scope key : String) (p shared : Parameter), p.inlineType = none →
    p.pointer.bind Reference.ofPointer? = some ⟨.parameter, key⟩ →
    ctx.document.sharedParameter? key = some shared →
    shared.inlineType = none → shared.pointer = some pointer →
    (ctx.ParameterTypedBy scope p name ↔
      Reference.ofPointer? pointer = some ⟨.definition, name⟩ ∧ ctx.document.defines name = true)
  /-- A parameter, unless it is led on to a shared one. -/
  parameter : ∀ (scope : String) (p : Parameter), p.inlineType = none →
    p.pointer = some pointer →
    (∀ key, Reference.ofPointer? pointer ≠ some ⟨.parameter, key⟩) →
    (ctx.ParameterTypedBy scope p name ↔
      Reference.ofPointer? pointer = some ⟨.definition, name⟩ ∧ ctx.document.defines name = true)

/-- The look-ups for responses, shared parameters and parameters follow one rule. -/
theorem definition_lookups_agree (ctx : Context) (pointer name : String) :
    LookupsAgree ctx pointer name where
  response scope status response carries := by
    rw [responseTypedBy_iff, carries]
    rfl
  shared scope key p shared untyped reference found untypedShared carries := by
    rw [parameterTypedBy_iff,
      Document.refersTo_iff_of_shared untyped reference found untypedShared, carries]
    rfl
  parameter scope p untyped carries direct := by
    rw [parameterTypedBy_iff, Document.refersTo_iff_of_not_shared untyped, carries]
    · rfl
    · rw [carries]
      exact direct

end ServiceContract
