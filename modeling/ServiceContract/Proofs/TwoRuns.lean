import Mathlib.Data.List.Forall2
import ServiceContract.Generate

/-!
# Two runs side by side

Two runs are compared step by step: `Report.Alike R` says of two reports that their values stand in
the relation `R` and that the same was found on the way. Related steps can be put one after the
other. If each declaration is built alike in two runs, the walks are alike, descriptor by
descriptor, provided that related descriptors have one id, since the walk looks at nothing else.

Main results:

* `Report.Alike.bind`       — steps in a row are alike if each is.
* `buildOperation_described_alike` — a declaration is built alike if it is described alike.
* `walkOperations_alike`    — walks are alike if declarations are built alike.
* `generate_alike_declared` — so are runs on one document, if related descriptors have one import
  set; it is enough that the document's own declarations are built alike.
-/

namespace ServiceContract

variable {α β γ δ : Type}

/-- The values of two reports stand in the relation `R`, and their findings are the same. -/
structure Report.Alike (R : α → β → Prop) (a : Report α) (b : Report β) : Prop where
  value : R a.value b.value
  findings : a.findings = b.findings

namespace Report.Alike

variable {R : α → β → Prop} {S : γ → δ → Prop}

theorem refl (a : Report α) : a.Alike Eq a := ⟨rfl, rfl⟩

theorem of_eq {a b : Report α} (h : a = b) : a.Alike Eq b := h ▸ refl a

theorem pure {a : α} {b : β} (h : R a b) : (Pure.pure a : Report α).Alike R (Pure.pure b) :=
  ⟨h, rfl⟩

/-- Steps in a row are alike if the second ones are for all related values. The findings have to be
equal, so that those of the whole are. -/
theorem bind {a : Report α} {b : Report β} {f : α → Report γ} {g : β → Report δ}
    (h : a.Alike R b) (hf : ∀ x y, R x y → (f x).Alike S (g y)) : (a >>= f).Alike S (b >>= g) := by
  have hlast := hf _ _ h.value
  refine ⟨hlast.value, ?_⟩
  rw [findings_bind, findings_bind, h.findings, hlast.findings]

/-- A first step that both runs have. -/
theorem bind_eq {a b : Report α} {f : α → Report γ} {g : α → Report δ} (h : a.Alike Eq b)
    (hf : ∀ x, (f x).Alike S (g x)) : (a >>= f).Alike S (b >>= g) :=
  h.bind fun x _ hxy => hxy ▸ hf x

/-- What is made of related values is related, if the two ways of making it are. -/
theorem map {a : Report α} {b : Report β} {f : α → γ} {g : β → δ} (h : a.Alike R b)
    (hf : ∀ x y, R x y → S (f x) (g y)) : (f <$> a).Alike S (g <$> b) := by
  refine ⟨hf _ _ h.value, ?_⟩
  rw [findings_map, findings_map, h.findings]

end Report.Alike

/-! ## One declaration -/

section Build

variable {ctx ctx' : Context} {R : OperationDescriptor → OperationDescriptor → Prop}

/-- Descriptors get the same imports where the same models were mentioned. -/
theorem Report.Alike.collectImports {r r' : Report OperationDescriptor}
    (himports : ∀ op op' imports, R op op' → R { op with imports } { op' with imports })
    (h : r.Alike R r') : r.collectImports.Alike R r'.collectImports := by
  constructor
  · rw [Report.collectImports, Report.collectImports, h.findings]
    exact himports _ _ _ h.value
  · rw [Report.collectImports, Report.collectImports, h.findings]

/-- A declaration is built alike if it is described alike. -/
theorem buildOperation_described_alike
    (himports : ∀ op op' imports, R op op' → R { op with imports } { op' with imports })
    {d : Declaration}
    (h : ∀ id method, d.operation.operationId = some id →
      (describeOperation ctx d id method).Alike R (describeOperation ctx' d id method)) :
    (buildOperation ctx d).Alike (Option.Rel R) (buildOperation ctx' d) := by
  unfold buildOperation
  -- what is skipped is skipped for the declaration's sake alone
  split
  · exact ⟨.none, rfl⟩
  · next id hid =>
    split
    · exact ⟨.none, rfl⟩
    · next method _ =>
      exact ((h id method hid).collectImports himports).map fun _ _ hop => .some hop

end Build

/-! ## Walks -/

section Walks

variable {ctx ctx' : Context} {R : OperationDescriptor → OperationDescriptor → Prop}

/-- Walks are alike if declarations are built alike. -/
theorem walkOperations_alike (hid : ∀ op op', R op op' → op.operationId = op'.operationId)
    (taken : List String) (declarations : List Declaration)
    (hbuild : ∀ d ∈ declarations,
      (buildOperation ctx d).Alike (Option.Rel R) (buildOperation ctx' d)) :
    (walkOperations ctx taken declarations).Alike (List.Forall₂ R)
      (walkOperations ctx' taken declarations) := by
  -- by induction on the declarations; the ids that are taken are the same in both walks
  induction declarations generalizing taken with
  | nil => exact .pure .nil
  | cons d rest ih =>
    obtain ⟨hfirst, hrest⟩ := List.forall_mem_cons.mp hbuild
    refine hfirst.bind fun built built' hbuilt => ?_
    cases hbuilt with
    | none => exact ih taken hrest
    | some hop =>
      simp only [← hid _ _ hop]
      split
      · exact (Report.Alike.refl _).bind_eq fun _ => ih taken hrest
      · refine (ih _ hrest).bind fun later later' hlater => ?_
        exact .pure (.cons hop hlater)

/-- The operations of two runs on one document are alike if its declarations are built alike. -/
theorem generateOperations_alike (hdocument : ctx.document = ctx'.document)
    (hwanted : ctx.settings.generateRequestTypes = ctx'.settings.generateRequestTypes)
    (hid : ∀ op op', R op op' → op.operationId = op'.operationId)
    (hbuild : ∀ d ∈ ctx.document.declarations,
      (buildOperation ctx d).Alike (Option.Rel R) (buildOperation ctx' d)) :
    (generateOperations ctx).Alike (List.Forall₂ R) (generateOperations ctx') := by
  unfold generateOperations
  rw [← hwanted, ← hdocument]
  split
  · exact walkOperations_alike hid [] _ hbuild
  · exact (Report.Alike.refl _).bind_eq fun _ => .pure .nil

end Walks

/-! ## Runs -/

/-- Two runs hand on the same imports and diagnostics, and operations that stand in the relation
`R`, one for one. -/
structure Generation.Alike (R : OperationDescriptor → OperationDescriptor → Prop)
    (g g' : Generation) : Prop where
  operations : List.Forall₂ R g.operations g'.operations
  imports : g.imports = g'.imports
  diagnostics : g.diagnostics = g'.diagnostics

/-- Two runs end alike: both are refused for one reason, or both succeed with related results and
the same findings. -/
inductive EndAlike (S : Generation → Generation → Prop) :
    Except VersionFault (Report Generation) → Except VersionFault (Report Generation) → Prop where
  | refused (fault : VersionFault) : EndAlike S (.error fault) (.error fault)
  | accepted {r r' : Report Generation} (alike : r.Alike S r') : EndAlike S (.ok r) (.ok r')

/-- Related descriptors have the same imports, and so do two lists of them taken together. -/
theorem flatMap_imports_eq {R : OperationDescriptor → OperationDescriptor → Prop}
    (himports : ∀ op op', R op op' → op.imports = op'.imports)
    {ops ops' : List OperationDescriptor} (h : List.Forall₂ R ops ops') :
    (ops.flatMap fun op => op.imports.names) = ops'.flatMap fun op => op.imports.names := by
  induction h with
  | nil => rfl
  | cons hop _ ih => rw [List.flatMap_cons, List.flatMap_cons, ih, himports _ _ hop]

/-- Runs on one document end alike if its declarations are built alike. -/
theorem generate_alike_declared {ctx ctx' : Context}
    {R : OperationDescriptor → OperationDescriptor → Prop} {S : Generation → Generation → Prop}
    (hdocument : ctx.document = ctx'.document)
    (hwanted : ctx.settings.generateRequestTypes = ctx'.settings.generateRequestTypes)
    (hR : ∀ op op', R op op' → op.operationId = op'.operationId ∧ op.imports = op'.imports)
    (hbuild : ∀ d ∈ ctx.document.declarations,
      (buildOperation ctx d).Alike (Option.Rel R) (buildOperation ctx' d))
    (hS : Generation.Alike R (generateAll ctx).value (generateAll ctx').value →
      S (generateAll ctx).value (generateAll ctx').value) :
    EndAlike S (generate ctx) (generate ctx') := by
  unfold generate
  rw [← hdocument]
  cases ctx.document.checkVersion with
  | error fault => exact .refused fault
  | ok _ =>
    have hoperations := generateOperations_alike hdocument hwanted
      (fun op op' h => (hR op op' h).1) hbuild
    have hall := flatMap_imports_eq (fun op op' h => (hR op op' h).2) hoperations.value
    have hlength := hoperations.value.length_eq
    refine .accepted ⟨hS ⟨hoperations.value, ?_, ?_⟩, ?_⟩
    · rw [value_generateAll, value_generateAll, hall]
    · rw [diagnostics_generateAll, diagnostics_generateAll, hdocument, hoperations.findings]
    · -- the closing line of the log tells numbers, and these are the same
      simp only [generateAll, Report.findings_bind, Report.findings_log, Report.findings_pure,
        hdocument, hoperations.findings, hall, hlength]

/-- Where all declarations are built alike, those of the document are. -/
theorem generate_alike {ctx ctx' : Context}
    {R : OperationDescriptor → OperationDescriptor → Prop} {S : Generation → Generation → Prop}
    (hdocument : ctx.document = ctx'.document)
    (hwanted : ctx.settings.generateRequestTypes = ctx'.settings.generateRequestTypes)
    (hR : ∀ op op', R op op' → op.operationId = op'.operationId ∧ op.imports = op'.imports)
    (hbuild : ∀ d, (buildOperation ctx d).Alike (Option.Rel R) (buildOperation ctx' d))
    (hS : Generation.Alike R (generateAll ctx).value (generateAll ctx').value →
      S (generateAll ctx).value (generateAll ctx').value) :
    EndAlike S (generate ctx) (generate ctx') :=
  generate_alike_declared hdocument hwanted hR (fun d _ => hbuild d) hS

end ServiceContract
