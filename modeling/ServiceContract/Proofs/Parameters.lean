import ServiceContract.Proofs.Responses
import ServiceContract.Resolve.Parameters

/-!
# What parameters refer to

A parameter that states its type in place refers to nothing. Any other is typed by its pointer: that
of a definition leads there at once, that of a shared parameter leads on to the definition which the
shared parameter points to, unless that one states its type in place. A chain has at most these two
links.

`Document.RefersTo` says which definition a parameter ends at. Resolving mentions this definition
and no other model.

Main results:

* `mem_models_resolveParameter`  — the models that resolving a parameter mentions.
* `mem_models_collectParameters` — the same for all parameters of an operation.
-/

namespace ServiceContract

/-! ## References to definitions -/

/-- The pointer, if there is one, is a reference to the definition `name` of the document. -/
def Document.PointsTo (d : Document) (pointer : Option String) (name : String) : Prop :=
  pointer.bind Reference.ofPointer? = some ⟨.definition, name⟩ ∧ d.defines name = true

/-- The definition of the document that a parameter is typed by. -/
inductive Document.RefersTo (d : Document) (p : Parameter) (name : String) : Prop
  /-- The parameter's own pointer, or that of its schema, leads to the definition. -/
  | own (untyped : p.inlineType = none) (points : d.PointsTo p.pointer name)
  /-- It leads to a shared parameter, and that one's pointer to the definition. -/
  | shared (key : String) (target : Parameter) (untyped : p.inlineType = none)
      (reference : p.pointer.bind Reference.ofPointer? = some ⟨.parameter, key⟩)
      (found : d.sharedParameter? key = some target) (untypedTarget : target.inlineType = none)
      (points : d.PointsTo target.pointer name)

/-- A parameter without a type in place refers to what its pointer leads to. -/
theorem Document.refersTo_iff {d : Document} {p : Parameter} {name : String}
    (untyped : p.inlineType = none) :
    d.RefersTo p name ↔ d.PointsTo p.pointer name ∨
      ∃ key target, p.pointer.bind Reference.ofPointer? = some ⟨.parameter, key⟩ ∧
        d.sharedParameter? key = some target ∧ target.inlineType = none ∧
        d.PointsTo target.pointer name := by
  constructor
  · rintro (⟨-, points⟩ | ⟨key, target, -, reference, found, untypedTarget, points⟩)
    · exact Or.inl points
    · exact Or.inr ⟨key, target, reference, found, untypedTarget, points⟩
  · rintro (points | ⟨key, target, reference, found, untypedTarget, points⟩)
    · exact .own untyped points
    · exact .shared key target untyped reference found untypedTarget points

/-- A reference ends at a definition of the document. -/
theorem Document.RefersTo.defines {d : Document} {p : Parameter} {name : String}
    (h : d.RefersTo p name) : d.defines name = true := by
  cases h with
  | own _ points => exact points.2
  | shared _ _ _ _ _ _ points => exact points.2

/-- Both resolvers look up the definition that a pointer leads to in this way. -/
theorem lookup_definition_iff {d : Document} {pointer : Option String} {name : String} :
    (match pointer.bind Reference.ofPointer? with
      | some ⟨.definition, name⟩ => if d.defines name then some name else none
      | _ => none) = some name ↔ d.PointsTo pointer name := by
  unfold Document.PointsTo
  cases pointer.bind Reference.ofPointer? with
  | none => simp
  | some reference =>
    obtain ⟨category, found⟩ := reference
    -- of the three categories only definitions are looked up
    cases category with
    | parameter => simp
    | other => simp
    | definition =>
      by_cases hdefines : d.defines found = true
      · simp only [hdefines, if_true, Option.some.injEq, Reference.mk.injEq, true_and]
        exact ⟨fun h => ⟨h, h ▸ hdefines⟩, And.left⟩
      · simp only [if_neg hdefines, reduceCtorEq, false_iff, Option.some.injEq,
          Reference.mk.injEq, true_and]
        rintro ⟨rfl, h⟩
        exact hdefines h

variable {ctx : Context} {scope : String} {p : Parameter} {name : String}

/-- A response has the model that its schema points to. -/
theorem modelOf?_eq_some {response : Response} :
    ctx.modelOf? response = some name ↔
      ctx.document.PointsTo (response.schema.bind Schema.reference) name :=
  lookup_definition_iff

/-- A shared parameter has the definition that its pointer leads to. -/
theorem sharedDefinition?_eq_some {shared : Parameter} :
    ctx.sharedDefinition? shared = some name ↔ ctx.document.PointsTo shared.pointer name :=
  lookup_definition_iff

/-! ## The models that resolving mentions -/

/-- A type that is stated in place mentions no model. -/
theorem models_resolveInline (type : String) :
    (resolveInline ctx scope p type).findings.models = [] := by
  unfold resolveInline
  split
  · rfl
  · rfl

/-- A definition is mentioned if the document has it. -/
theorem mem_models_resolveDefinition {label definition : String} :
    name ∈ (resolveDefinition ctx scope p label definition).findings.models ↔
      name = definition ∧ ctx.document.defines definition = true := by
  unfold resolveDefinition
  split
  · next h => simp [h]
  · next h => simp [h]

theorem mem_models_resolveSharedType {key : String} {shared : Parameter} :
    name ∈ (resolveSharedType ctx scope key shared).findings.models ↔
      shared.inlineType = none ∧ ctx.document.PointsTo shared.pointer name := by
  rw [← sharedDefinition?_eq_some]
  unfold resolveSharedType
  cases shared.inlineType with
  | some type => simp
  | none =>
    cases ctx.sharedDefinition? shared with
    | none => simp
    | some definition => simp [eq_comm]

/-- A shared parameter mentions a definition if it states no type. It does not matter how many links
lead to it: only one is followed. -/
theorem mem_models_resolveShared {key : String} :
    name ∈ (resolveShared ctx scope p key).findings.models ↔
      ∃ target, ctx.document.sharedParameter? key = some target ∧
        target.inlineType = none ∧ ctx.document.PointsTo target.pointer name := by
  unfold resolveShared
  cases ctx.document.sharedParameter? key with
  | none => simp
  | some target =>
    simp only [Report.findings_bind, Findings.models_append, Report.findings_pure,
      List.append_nil, mem_models_resolveSharedType, Option.some.injEq, exists_eq_left']

/-- Resolving a parameter mentions the definition it refers to and no other model. -/
theorem mem_models_resolveParameter :
    name ∈ (resolveParameter ctx scope p).findings.models ↔ ctx.document.RefersTo p name := by
  cases p.typing with
  | stated type states =>
    -- a type in place keeps the pointer from being looked at
    rw [resolveParameter_of_stated states, models_resolveInline]
    simp only [List.not_mem_nil, false_iff]
    rintro (⟨untyped, -⟩ | ⟨key, target, untyped, -⟩)
    · cases states.symm.trans untyped
    · cases states.symm.trans untyped
  | definition found untyped reference =>
    rw [resolveParameter_of_definition untyped reference, mem_models_resolveDefinition,
      Document.refersTo_iff untyped, Document.PointsTo, reference]
    constructor
    · rintro ⟨rfl, hdefines⟩
      exact Or.inl ⟨rfl, hdefines⟩
    · rintro (⟨hreference, hdefines⟩ | ⟨key, target, hreference, -⟩)
      · cases hreference
        exact ⟨rfl, hdefines⟩
      · cases hreference
  | parameter key untyped reference =>
    rw [resolveParameter_of_parameter untyped reference, mem_models_resolveShared,
      Document.refersTo_iff untyped, Document.PointsTo, reference]
    simp
  | nothing untyped foreign =>
    obtain ⟨issue, -, hskip⟩ := exists_skip_of_nothing untyped foreign
    rw [hskip, Report.models_skip, Document.refersTo_iff untyped, Document.PointsTo]
    simp only [List.not_mem_nil, false_iff]
    rintro (⟨hreference, -⟩ | ⟨key, target, hreference, -⟩)
    · cases foreign _ hreference
    · cases foreign _ hreference

/-- Resolving all parameters of an operation mentions the definitions that those of its path and its
own refer to. -/
theorem mem_models_collectParameters {path own : List Parameter} {auth : List AuthHeader} :
    name ∈ (collectParameters ctx scope path auth own).findings.models ↔
      ∃ p ∈ path ++ own, ctx.document.RefersTo p name := by
  -- each parameter mentions what it refers to, as if it were alone
  have hkeep : ∀ l : List Parameter,
      name ∈ (Report.keep (resolveParameter ctx scope) l).findings.models ↔
        ∃ p ∈ l, ctx.document.RefersTo p name := by
    intro l
    rw [Report.findings_keep, Findings.models_concat, List.flatMap_map, List.mem_flatMap]
    simp only [mem_models_resolveParameter]
  simp only [collectParameters, Report.findings_bind, Findings.models_append,
    Report.findings_pure, List.append_nil, List.mem_append, hkeep]
  constructor
  · rintro (⟨p, hp, href⟩ | ⟨p, hp, href⟩)
    · exact ⟨p, Or.inl hp, href⟩
    · exact ⟨p, Or.inr hp, href⟩
  · rintro ⟨p, hp | hp, href⟩
    · exact Or.inl ⟨p, hp, href⟩
    · exact Or.inr ⟨p, hp, href⟩

end ServiceContract
