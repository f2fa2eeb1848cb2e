import Mathlib.Data.List.Forall2
import ServiceContract.Proofs.Walk

/-!
# The order of operations

Each operation is built from its own declaration, the parameters of its path and the parts of the
document that all operations share. None of these tells where among the others it stands. The walk
alone depends on the order, and only where two operations claim one id: without such rivals it
builds every declaration and leaves nothing out but what cannot be built. So a document with its
paths and operations in another order has the same descriptors and the same findings in another
order.

Main results:

* `builds_reordered`       — the declarations of both documents are built into the same reports.
* `walkOperations_eq_keep` — a walk over distinct claims keeps all that is built.
* `reordered_runs_agree`   — runs on both documents agree up to order.
-/

namespace ServiceContract

/-! ## Documents in another order -/

/-- The items have the same parameters, and the same operations in some order. -/
structure PathItem.Reordered (a b : PathItem) : Prop where
  parameters : a.parameters = b.parameters
  operations : a.operations.entries.Perm b.operations.entries

/-- The documents are the same but for the order of the paths and of the operations of each. -/
structure Document.Reordered (a b : Document) : Prop where
  parts : b = { a with paths := b.paths }
  /-- The paths of `a`, put in another order, are those of `b` up to the order of operations. -/
  paths : ∃ entries, a.paths.entries.Perm entries ∧
    List.Forall₂ (fun x y => x.1 = y.1 ∧ x.2.Reordered y.2) entries b.paths.entries

/-! ## What is built -/

/-- What the operations of one path are built into. -/
def Context.buildPath (ctx : Context) (entry : String × PathItem) :
    List (Report (Option OperationDescriptor)) :=
  entry.2.operations.entries.map fun (method, operation) =>
    buildOperation ctx ⟨entry.1, entry.2, method, operation⟩

/-- The builder is asked for declarations path by path. -/
theorem map_buildOperation_declarations (ctx : Context) (document : Document) :
    document.declarations.map (buildOperation ctx) =
      document.paths.entries.flatMap ctx.buildPath := by
  rw [Document.declarations, List.map_flatMap]
  congr 1
  funext entry
  rw [List.map_map]
  rfl

/-- A path with its operations in another order gives the same descriptors and reports, in another
order. -/
theorem buildPath_reordered (ctx : Context) {x y : String × PathItem}
    (h : x.1 = y.1 ∧ x.2.Reordered y.2) : (ctx.buildPath x).Perm (ctx.buildPath y) := by
  obtain ⟨path, item⟩ := x
  obtain ⟨path', item'⟩ := y
  obtain ⟨rfl, hparameters, hoperations⟩ := h
  have hsame : ∀ entry : String × Operation,
      buildOperation ctx ⟨path, item, entry.1, entry.2⟩ =
        buildOperation ctx ⟨path, item', entry.1, entry.2⟩ := by
    intro entry
    exact buildOperation_of_item ctx path entry.1 entry.2 hparameters
  rw [Context.buildPath, Context.buildPath, List.map_congr_left fun entry _ => hsame entry]
  exact hoperations.map _

/-- Lists of related items are mapped to the same parts, each up to order. -/
theorem perm_flatMap_of_forall₂ {α β γ : Type} {R : α → β → Prop} {f : α → List γ}
    {g : β → List γ} {l : List α} {m : List β} (h : List.Forall₂ R l m)
    (hpart : ∀ x y, R x y → (f x).Perm (g y)) : (l.flatMap f).Perm (m.flatMap g) := by
  induction h with
  | nil => exact .nil
  | cons hxy _ ih =>
    rw [List.flatMap_cons, List.flatMap_cons]
    exact (hpart _ _ hxy).append ih

section Reordered

variable {a b : Document}

/-- The declarations of both documents are built into the same reports. -/
theorem builds_reordered (settings : Settings) (mapper : TypeMapper) (h : a.Reordered b) :
    (a.declarations.map (buildOperation ⟨a, settings, mapper⟩)).Perm
      (b.declarations.map (buildOperation ⟨b, settings, mapper⟩)) := by
  have hparts : b = { a with paths := b.paths, diagnostics := b.diagnostics } := by
    rw [h.parts]
  have hbuild := buildOperation_of_parts hparts settings mapper
  obtain ⟨entries, hperm, hitems⟩ := h.paths
  rw [hbuild, map_buildOperation_declarations, map_buildOperation_declarations]
  refine (hperm.flatMap_right _).trans ?_
  exact perm_flatMap_of_forall₂ hitems fun _ _ hxy => buildPath_reordered _ hxy

end Reordered

/-! ## A walk without rivals -/

/-- What declarations claim is seen from what they are built into. -/
theorem filterMap_claim? (ctx : Context) (declarations : List Declaration) :
    declarations.filterMap Declaration.claim? =
      (declarations.map (buildOperation ctx)).filterMap fun r =>
        r.value.map OperationDescriptor.operationId := by
  rw [List.filterMap_map]
  refine List.filterMap_congr fun d _ => ?_
  exact (map_operationId_buildOperation ctx d).symm

/-- A walk over distinct claims that are not taken keeps all that is built. -/
theorem walkOperations_eq_keep (ctx : Context) {taken : List String}
    {declarations : List Declaration}
    (hdistinct : (declarations.filterMap Declaration.claim?).Nodup)
    (hnew : ∀ id ∈ declarations.filterMap Declaration.claim?, id ∉ taken) :
    walkOperations ctx taken declarations = Report.keep (buildOperation ctx) declarations := by
  -- by induction on the declarations; an id that is claimed now is claimed by none of the rest
  induction declarations generalizing taken with
  | nil => rfl
  | cons d rest ih =>
    have hclaim := map_operationId_buildOperation ctx d
    cases hvalue : (buildOperation ctx d).value with
    | none =>
      rw [hvalue, Option.map_none] at hclaim
      rw [List.filterMap_cons_none hclaim.symm] at hdistinct hnew
      rw [walkOperations_of_none hvalue, ih hdistinct hnew]
      ext1
      · simp [Report.keep, hvalue]
      · simp [Report.keep]
    | some op =>
      rw [hvalue, Option.map_some] at hclaim
      rw [List.filterMap_cons_some hclaim.symm] at hdistinct hnew
      obtain ⟨hown, hrest⟩ := List.nodup_cons.mp hdistinct
      have hfree : op.operationId ∉ taken := hnew _ (List.mem_cons_self ..)
      have hlater : ∀ id ∈ rest.filterMap Declaration.claim?, id ∉ op.operationId :: taken := by
        intro id hid hmem
        rcases List.mem_cons.mp hmem with rfl | htaken
        · exact hown hid
        · exact hnew id (List.mem_cons_of_mem _ hid) htaken
      rw [walkOperations_of_free hvalue hfree, ih hrest hlater]
      ext1
      · simp [Report.keep, hvalue]
      · simp [Report.keep]

/-- The walk keeps all that is built if no two declarations claim one id, so the order in which they
come shows in the order of what it hands on alone. With a shared id the first would be kept, and
which one that is depends on the order. -/
theorem generateOperations_reordered {a b : Document} (settings : Settings) (mapper : TypeMapper)
    (h : a.Reordered b) (distinct : (a.declarations.filterMap Declaration.claim?).Nodup) :
    (generateOperations ⟨a, settings, mapper⟩).value.Perm
        (generateOperations ⟨b, settings, mapper⟩).value ∧
      (generateOperations ⟨a, settings, mapper⟩).findings.diagnostics.Perm
        (generateOperations ⟨b, settings, mapper⟩).findings.diagnostics := by
  have hbuilds := builds_reordered settings mapper h
  have hclaims : (a.declarations.filterMap Declaration.claim?).Perm
      (b.declarations.filterMap Declaration.claim?) := by
    rw [filterMap_claim? ⟨a, settings, mapper⟩ a.declarations,
      filterMap_claim? ⟨b, settings, mapper⟩ b.declarations]
    exact hbuilds.filterMap _
  have hdistinct := hclaims.nodup_iff.mp distinct
  unfold generateOperations
  split
  · rw [walkOperations_eq_keep _ distinct fun _ _ => List.not_mem_nil,
      walkOperations_eq_keep _ hdistinct fun _ _ => List.not_mem_nil]
    constructor
    · have hvalue := hbuilds.filterMap Report.value
      rw [List.filterMap_map, List.filterMap_map] at hvalue
      rw [Report.value_keep, Report.value_keep]
      exact hvalue
    · have hfound := hbuilds.flatMap_right fun r => r.findings.diagnostics
      rw [List.flatMap_map, List.flatMap_map] at hfound
      rw [Report.diagnostics_keep, Report.diagnostics_keep]
      exact hfound
  · -- nothing is walked, and the number of paths is only logged
    constructor
    · rw [Report.value_bind, Report.value_bind]
    · simp only [Report.findings_bind, Report.findings_log, Report.findings_pure]
      exact .refl _

/-! ## Runs -/

/-- Two runs on documents with the diagnostics `read` agree up to order. -/
structure Generation.AgreesUpToOrder (read : List Diagnostic) (g g' : Generation) : Prop where
  models : g.models = g'.models
  imports : g.imports = g'.imports
  operations : g.operations.Perm g'.operations
  /-- What was skipped on reading comes first in both. -/
  diagnostics : ∃ walk walk', g.diagnostics = read ++ walk ∧ g'.diagnostics = read ++ walk' ∧
    walk.Perm walk'

/-- Where no two operations claim one id, a run on the document in another order succeeds as well,
and the two agree up to order. `distinct` speaks of the ids under which operations can be built: one
without an id, or with an unsupported method, has none and is left out in any order. -/
theorem reordered_runs_agree (a b : Document) (settings : Settings) (mapper : TypeMapper)
    (reordered : a.Reordered b)
    (distinct : (a.declarations.filterMap Declaration.claim?).Nodup)
    (r : Report Generation) (run : generate ⟨a, settings, mapper⟩ = .ok r) :
    ∃ r', generate ⟨b, settings, mapper⟩ = .ok r' ∧
      r.value.AgreesUpToOrder a.diagnostics r'.value := by
  obtain ⟨hversion, rfl⟩ := generate_eq_ok.mp run
  -- the version does not depend on the order, so the other document is accepted too
  have hversion' : b.checkVersion = .ok () := by
    rw [reordered.parts]
    exact hversion
  obtain ⟨hoperations, hwalk⟩ := generateOperations_reordered settings mapper reordered distinct
  refine ⟨generateAll ⟨b, settings, mapper⟩, generate_eq_ok.mpr ⟨hversion', rfl⟩, ?_, ?_,
    hoperations, _, _, rfl, ?_, hwalk⟩
  · rw [models_generateAll, models_generateAll, reordered.parts]
    rfl
  · -- imports are a set, and the descriptors that make it up are the same
    refine ImportSet.ext_mem fun name => ?_
    rw [mem_imports_generateAll, mem_imports_generateAll]
    simp only [hoperations.mem_iff]
  · rw [diagnostics_generateAll, reordered.parts]

/-- An operation that refers to a missing parameter. -/
def pagedOperation (id : String) : Operation where
  operationId := some id
  parameters := [{ reference := some "#/parameters/page" }]

/-- Two paths, the first with two operations. -/
def ordersFirst : Document where
  swagger := some "2.0"
  paths := Keyed.ofList [
    ("/orders", { operations := Keyed.ofList [
      ("get", pagedOperation "list"), ("post", { operationId := some "create" })] }),
    ("/users", { operations := Keyed.ofList [("get", pagedOperation "users")] })]

/-- The same with the paths, and the operations of one, the other way round. -/
def usersFirst : Document where
  swagger := some "2.0"
  paths := Keyed.ofList [
    ("/users", { operations := Keyed.ofList [("get", pagedOperation "users")] }),
    ("/orders", { operations := Keyed.ofList [
      ("post", { operationId := some "create" }), ("get", pagedOperation "list")] })]

theorem ordersFirst_reordered : ordersFirst.Reordered usersFirst where
  parts := rfl
  paths := by
    refine ⟨_, .swap _ _ [], .cons ⟨rfl, rfl, .refl _⟩ (.cons ⟨rfl, rfl, ?_⟩ .nil)⟩
    exact .swap _ _ []

/-- Their runs agree up to order, and the first of them goes through. -/
theorem ordersFirst_agrees :
    ordersFirst.Reordered usersFirst ∧
      (ordersFirst.declarations.filterMap Declaration.claim?).Nodup ∧
      generate ⟨ordersFirst, {}, TypeMapper.standard⟩ =
        .ok (generateAll ⟨ordersFirst, {}, TypeMapper.standard⟩) ∧
      ∃ r', generate ⟨usersFirst, {}, TypeMapper.standard⟩ = .ok r' ∧
        (generateAll ⟨ordersFirst, {}, TypeMapper.standard⟩).value.AgreesUpToOrder
          ordersFirst.diagnostics r'.value :=
  ⟨ordersFirst_reordered, by decide, rfl,
    reordered_runs_agree ordersFirst usersFirst {} TypeMapper.standard ordersFirst_reordered
      (by decide) _ rfl⟩

example : [ordersFirst, usersFirst].map (fun document =>
    (generateAll ⟨document, {}, TypeMapper.standard⟩).value.operations.map (·.operationId)) =
      [["list", "create", "users"], ["users", "create", "list"]] := by decide +kernel

end ServiceContract
