import ServiceContract.Generate
import ServiceContract.Proofs.Building

/-!
# The walk over a document's operations

A walk keeps the ids it has given away in a list of its own. Here the same is said of the
declarations alone: what becomes of one depends on it and on the declarations before it, and
`Declaration.omission?` gives the reason if it gets no descriptor. `kept` are those without a
reason, `omissions` the reasons of the others.

The run invariant is `Covers`: the ids taken so far are the claims of the declarations walked so
far. An unsupported operation claims nothing, so its id stays free; a duplicate claims what is taken
already.

Main results:

* `walkOperations_run`             — a walk builds the kept declarations, in their order, and its
  reports of left-out operations are the omissions, in their order.
* `operationIds_walkOperations`    — the ids of a walk's descriptors are new and distinct.
* `generate_keeps_first_claims`    — the same for a document: descriptors, ids, imports and the
  count of what is left out.
-/

namespace ServiceContract

/-! ## What becomes of a declaration -/

/-- Why `d` gets no descriptor after the declarations `earlier`. -/
def Declaration.omission? (earlier : List Declaration) (d : Declaration) : Option Diagnostic :=
  match d.operation.operationId with
  | none => some ⟨operationLabel d.method d.path, .noOperationId⟩
  | some id =>
    if d.method ∉ ["get", "post", "put", "delete"] then
      some ⟨id, .unsupportedMethod d.method d.path⟩
    else if some id ∈ earlier.map Declaration.claim? then
      some ⟨id, .duplicateOperationId d.method d.path⟩
    else none

/-- Each of the declarations with those before it, which start with `earlier`. -/
def withEarlier (earlier : List Declaration) :
    List Declaration → List (List Declaration × Declaration)
  | [] => []
  | d :: rest => (earlier, d) :: withEarlier (earlier ++ [d]) rest

/-- The declarations that get a descriptor, in order. -/
def kept (earlier declarations : List Declaration) : List Declaration :=
  ((withEarlier earlier declarations).filter fun p => (p.2.omission? p.1).isNone).map Prod.snd

/-- The reasons of those that get none, in order: one for each. -/
def omissions (earlier declarations : List Declaration) : List Diagnostic :=
  (withEarlier earlier declarations).filterMap fun p => p.2.omission? p.1

/-- Each declaration is judged with those that stand before it. -/
theorem mem_withEarlier {earlier before declarations : List Declaration} {d : Declaration} :
    (before, d) ∈ withEarlier earlier declarations ↔
      ∃ front back, declarations = front ++ d :: back ∧ before = earlier ++ front := by
  induction declarations generalizing earlier with
  | nil => simp [withEarlier]
  | cons x rest ih =>
    rw [withEarlier, List.mem_cons, ih]
    constructor
    · rintro (h | ⟨front, back, rfl, rfl⟩)
      · obtain ⟨rfl, rfl⟩ := Prod.mk.inj h
        exact ⟨[], rest, rfl, by simp⟩
      · exact ⟨x :: front, back, rfl, by simp⟩
    · rintro ⟨front, back, hsplit, rfl⟩
      -- either `d` comes first, or it has the first one before it
      cases front with
      | nil =>
        obtain ⟨rfl, rfl⟩ := List.cons.inj hsplit
        exact Or.inl (by simp)
      | cons y front =>
        obtain ⟨rfl, rfl⟩ := List.cons.inj hsplit
        exact Or.inr ⟨front, back, rfl, by simp⟩

theorem mem_of_mem_kept {earlier declarations : List Declaration} {d : Declaration}
    (h : d ∈ kept earlier declarations) : d ∈ declarations := by
  obtain ⟨⟨before, d'⟩, hmem, rfl⟩ := List.mem_map.mp h
  obtain ⟨front, back, rfl, -⟩ := mem_withEarlier.mp (List.mem_filter.mp hmem).1
  exact List.mem_append_right front (List.mem_cons_self ..)

theorem kept_cons_of_none {earlier rest : List Declaration} {d : Declaration}
    (h : d.omission? earlier = none) :
    kept earlier (d :: rest) = d :: kept (earlier ++ [d]) rest := by
  simp [kept, withEarlier, h]

/-- One that is left out still counts as an earlier one for those that follow. -/
theorem kept_cons_of_some {earlier rest : List Declaration} {d : Declaration}
    {reason : Diagnostic} (h : d.omission? earlier = some reason) :
    kept earlier (d :: rest) = kept (earlier ++ [d]) rest := by
  simp [kept, withEarlier, h]

/-- Each declaration that is left out adds one report. -/
theorem omissions_cons (earlier rest : List Declaration) (d : Declaration) :
    omissions earlier (d :: rest) =
      (d.omission? earlier).toList ++ omissions (earlier ++ [d]) rest := by
  rw [omissions, withEarlier, List.filterMap_cons]
  cases d.omission? earlier <;> rfl

/-- Every declaration is either kept or has its reason. -/
theorem length_kept_add_omissions (earlier declarations : List Declaration) :
    (kept earlier declarations).length + (omissions earlier declarations).length =
      declarations.length := by
  induction declarations generalizing earlier with
  | nil => rfl
  | cons d rest ih =>
    have hrest := ih (earlier ++ [d])
    rw [omissions_cons]
    -- what comes after is counted alike; the declaration itself is on one side or on the other
    cases h : d.omission? earlier with
    | none =>
      rw [kept_cons_of_none h, List.length_cons, List.length_cons, Option.toList_none,
        List.nil_append]
      omega
    | some reason =>
      rw [kept_cons_of_some h, Option.toList_some, List.length_append, List.length_singleton,
        List.length_cons]
      omega

/-! ## One step -/

/-- The ids in `taken` are those that the declarations `earlier` claim. -/
def Covers (taken : List String) (earlier : List Declaration) : Prop :=
  ∀ id, id ∈ taken ↔ some id ∈ earlier.map Declaration.claim?

theorem covers_nil : Covers [] [] := by
  intro id
  simp

/-- A declaration that claims nothing new leaves the taken ids as they are. -/
theorem Covers.skip {taken : List String} {earlier : List Declaration} {d : Declaration}
    (h : Covers taken earlier) (hd : ∀ id, d.claim? = some id → id ∈ taken) :
    Covers taken (earlier ++ [d]) := by
  intro id
  rw [List.map_append, List.mem_append, ← h id, List.map_singleton, List.mem_singleton]
  constructor
  · exact Or.inl
  · rintro (hid | hid)
    · exact hid
    · exact hd id hid.symm

/-- A declaration that claims a new id takes it. -/
theorem Covers.take {taken : List String} {earlier : List Declaration} {d : Declaration}
    {id : String} (h : Covers taken earlier) (hd : d.claim? = some id) :
    Covers (id :: taken) (earlier ++ [d]) := by
  intro i
  rw [List.map_append, List.mem_append, ← h i, List.map_singleton, List.mem_singleton, hd,
    List.mem_cons, Option.some.injEq, or_comm]

/-- What one declaration comes to, once it is known which ids are taken. -/
inductive Judged (ctx : Context) (taken : List String) (earlier : List Declaration)
    (d : Declaration) : Prop where
  /-- It claims nothing and is reported. -/
  | refused (value : (buildOperation ctx d).value = none) (claim : d.claim? = none)
      (reason : Diagnostic) (omission : d.omission? earlier = some reason)
      (reported : (buildOperation ctx d).findings.diagnostics = [reason])
      (about : reason.issue.omitsOperation = true)
  /-- It claims an id that is taken. -/
  | duplicate (op : OperationDescriptor) (value : (buildOperation ctx d).value = some op)
      (claim : d.claim? = some op.operationId) (isTaken : op.operationId ∈ taken)
      (omission : d.omission? earlier =
        some ⟨op.operationId, .duplicateOperationId d.method d.path⟩)
  /-- It claims an id that is free. -/
  | first (op : OperationDescriptor) (value : (buildOperation ctx d).value = some op)
      (claim : d.claim? = some op.operationId) (isFree : op.operationId ∉ taken)
      (omission : d.omission? earlier = none)

/-- Every declaration is one of the three, by what it claims and whether that is taken. `Covers` is
what makes the walk's list of taken ids say the same as the declarations before. -/
theorem judged {taken : List String} {earlier : List Declaration} (ctx : Context)
    (h : Covers taken earlier) (d : Declaration) : Judged ctx taken earlier d := by
  have hclaim := map_operationId_buildOperation ctx d
  cases hvalue : (buildOperation ctx d).value with
  | none =>
    rw [hvalue, Option.map_none, eq_comm] at hclaim
    -- nothing is claimed, so there is no id or no supported method
    cases hid : d.operation.operationId with
    | none =>
      refine .refused hvalue hclaim _ (by simp only [Declaration.omission?, hid]; rfl) ?_ rfl
      simp [buildOperation, hid]
    | some id =>
      have hmethod : d.method ∉ ["get", "post", "put", "delete"] := by
        intro hmem
        rw [Declaration.claim?, if_pos hmem, hid] at hclaim
        cases hclaim
      have hnone : HttpMethod.ofName? d.method = none := by
        rw [Option.eq_none_iff_forall_ne_some]
        intro m hm
        exact hmethod (HttpMethod.exists_ofName?.mp ⟨m, hm⟩)
      refine .refused hvalue hclaim ⟨id, .unsupportedMethod d.method d.path⟩ ?_ ?_ rfl
      · rw [Declaration.omission?, hid]
        exact if_pos hmethod
      · simp [buildOperation, hid, hnone]
  | some op =>
    rw [hvalue, Option.map_some, eq_comm] at hclaim
    obtain ⟨hid, hsome⟩ := claim?_eq_some.mp hclaim
    have hmethod : ¬ d.method ∉ ["get", "post", "put", "delete"] :=
      not_not_intro (HttpMethod.exists_ofName?.mp hsome)
    -- what is taken is what earlier declarations claim
    by_cases htaken : op.operationId ∈ taken
    · refine .duplicate op hvalue hclaim htaken ?_
      rw [Declaration.omission?, hid]
      simp only [if_neg hmethod, if_pos ((h _).mp htaken)]
    · refine .first op hvalue hclaim htaken ?_
      rw [Declaration.omission?, hid]
      simp only [if_neg hmethod, if_neg (mt (h _).mpr htaken)]

/-- What a built declaration reports is never that it is left out. -/
theorem filter_diagnostics_buildOperation {ctx : Context} {d : Declaration}
    {op : OperationDescriptor} (h : (buildOperation ctx d).value = some op) :
    (buildOperation ctx d).findings.diagnostics.filter (·.issue.omitsOperation) = [] := by
  unfold buildOperation at h ⊢
  split at h
  · cases h
  · next id hid =>
    split at h
    · cases h
    · next method hmethod =>
      rw [Report.findings_map, Report.diagnostics_collectImports]
      rw [List.filter_eq_nil_iff]
      intro e he
      rw [describeOperation_only ctx d id method e he]
      exact Bool.false_ne_true

/-! ## The run -/

section Run

variable {ctx : Context} {taken : List String} {d : Declaration} {rest : List Declaration}

/-- A declaration that is not built adds its report and no more. -/
theorem walkOperations_of_none (h : (buildOperation ctx d).value = none) :
    walkOperations ctx taken (d :: rest) =
      ⟨(walkOperations ctx taken rest).value,
        (buildOperation ctx d).findings ++ (walkOperations ctx taken rest).findings⟩ := by
  ext1
  · simp [walkOperations, h]
  · simp [walkOperations, h]

/-- One that is built under an id that is taken adds what it finds, and is then reported as a
duplicate. Its descriptor is dropped, and its imports with it. -/
theorem walkOperations_of_taken {op : OperationDescriptor}
    (h : (buildOperation ctx d).value = some op) (htaken : op.operationId ∈ taken) :
    walkOperations ctx taken (d :: rest) =
      ⟨(walkOperations ctx taken rest).value,
        (buildOperation ctx d).findings ++
          ((Report.warn op.operationId (.duplicateOperationId d.method d.path)).findings ++
            (walkOperations ctx taken rest).findings)⟩ := by
  ext1
  · simp [walkOperations, h, htaken]
  · simp [walkOperations, h, htaken]

/-- One that is built under a free id is kept, and its id is taken from then on. -/
theorem walkOperations_of_free {op : OperationDescriptor}
    (h : (buildOperation ctx d).value = some op) (hfree : op.operationId ∉ taken) :
    walkOperations ctx taken (d :: rest) =
      ⟨op :: (walkOperations ctx (op.operationId :: taken) rest).value,
        (buildOperation ctx d).findings ++
          (walkOperations ctx (op.operationId :: taken) rest).findings⟩ := by
  ext1
  · simp [walkOperations, h, hfree]
  · simp [walkOperations, h, hfree]

end Run

/-- A walk builds the kept declarations, in their order, and its reports of left-out operations are
the omissions, in their order. -/
theorem walkOperations_run (ctx : Context) {taken : List String}
    {earlier : List Declaration} (h : Covers taken earlier) (declarations : List Declaration) :
    (walkOperations ctx taken declarations).value.map some =
        (kept earlier declarations).map (fun d => (buildOperation ctx d).value) ∧
      (walkOperations ctx taken declarations).findings.diagnostics.filter
        (·.issue.omitsOperation) = omissions earlier declarations := by
  -- by induction on the declarations; `Covers` carries the ids that are taken from one to the next
  induction declarations generalizing taken earlier with
  | nil => exact ⟨rfl, rfl⟩
  | cons d rest ih =>
    rw [omissions_cons]
    cases judged ctx h d with
    | refused value claim reason omission reported about =>
      have hcovers : Covers taken (earlier ++ [d]) :=
        h.skip fun id hid => by rw [claim] at hid; cases hid
      obtain ⟨hbuilt, hreported⟩ := ih hcovers
      rw [walkOperations_of_none value, kept_cons_of_some omission, omission]
      refine ⟨hbuilt, ?_⟩
      simp [reported, about, hreported]
    | duplicate op value claim isTaken omission =>
      have hcovers : Covers taken (earlier ++ [d]) :=
        h.skip fun id hid => Option.some.inj (claim.symm.trans hid) ▸ isTaken
      obtain ⟨hbuilt, hreported⟩ := ih hcovers
      rw [walkOperations_of_taken value isTaken, kept_cons_of_some omission, omission]
      refine ⟨hbuilt, ?_⟩
      -- of what is reported only the warning is about the omission
      rw [Findings.diagnostics_append, Findings.diagnostics_append, List.filter_append,
        filter_diagnostics_buildOperation value, Report.diagnostics_warn, List.nil_append,
        List.singleton_append, List.filter_cons_of_pos rfl, hreported]
      rfl
    | first op value claim isFree omission =>
      obtain ⟨hbuilt, hreported⟩ := ih (h.take claim)
      rw [walkOperations_of_free value isFree, kept_cons_of_none omission, omission]
      refine ⟨?_, ?_⟩
      · rw [List.map_cons, List.map_cons, hbuilt, value]
      · simp [filter_diagnostics_buildOperation value, hreported]

/-- The ids of a walk's descriptors are new and distinct. -/
theorem operationIds_walkOperations (ctx : Context) (taken : List String)
    (declarations : List Declaration) :
    (∀ op ∈ (walkOperations ctx taken declarations).value, op.operationId ∉ taken) ∧
      ((walkOperations ctx taken declarations).value.map (·.operationId)).Nodup := by
  induction declarations generalizing taken with
  | nil => exact ⟨by simp [walkOperations], by simp [walkOperations]⟩
  | cons d rest ih =>
    cases hvalue : (buildOperation ctx d).value with
    | none =>
      rw [walkOperations_of_none hvalue]
      exact ih taken
    | some op =>
      by_cases htaken : op.operationId ∈ taken
      · rw [walkOperations_of_taken hvalue htaken]
        exact ih taken
      · rw [walkOperations_of_free hvalue htaken]
        obtain ⟨hnew, hdistinct⟩ := ih (op.operationId :: taken)
        constructor
        · intro o ho
          rcases List.mem_cons.mp ho with rfl | ho
          · exact htaken
          · exact fun hmem => hnew o ho (List.mem_cons_of_mem _ hmem)
        · rw [List.map_cons, List.nodup_cons]
          -- the id is taken for the rest of the walk
          refine ⟨fun hmem => ?_, hdistinct⟩
          obtain ⟨o, ho, hid⟩ := List.mem_map.mp hmem
          exact hnew o ho (hid ▸ List.mem_cons_self ..)

/-! ## The document -/

section Document

variable {ctx : Context}

/-- The walk of a run, where operations are asked for. -/
theorem generateOperations_eq_walk (wanted : ctx.settings.generateRequestTypes = true) :
    generateOperations ctx = walkOperations ctx [] ctx.document.declarations :=
  if_pos wanted

/-- Where operations are asked for, the walk hands on the descriptors of the kept declarations. -/
theorem generateOperations_map_some (wanted : ctx.settings.generateRequestTypes = true) :
    (generateOperations ctx).value.map some =
      (kept [] ctx.document.declarations).map fun d => (buildOperation ctx d).value := by
  rw [generateOperations_eq_walk wanted]
  exact (walkOperations_run ctx covers_nil _).1

/-- The descriptors of a run are what its kept declarations are built into. -/
theorem mem_generateOperations (wanted : ctx.settings.generateRequestTypes = true)
    {op : OperationDescriptor} :
    op ∈ (generateOperations ctx).value ↔
      ∃ d ∈ kept [] ctx.document.declarations, (buildOperation ctx d).value = some op := by
  have hbuilt := generateOperations_map_some wanted
  constructor
  · intro hop
    have hmem : some op ∈ (generateOperations ctx).value.map some := List.mem_map_of_mem hop
    rw [hbuilt] at hmem
    exact List.mem_map.mp hmem
  · intro hd
    have hmem : some op ∈ (generateOperations ctx).value.map some :=
      hbuilt ▸ List.mem_map.mpr hd
    obtain ⟨o, ho, heq⟩ := List.mem_map.mp hmem
    exact Option.some.inj heq ▸ ho

/-- There are descriptors only where operations are asked for. -/
theorem wanted_of_mem {op : OperationDescriptor} (h : op ∈ (generateOperations ctx).value) :
    ctx.settings.generateRequestTypes = true := by
  unfold generateOperations at h
  split at h
  · next hwanted => exact hwanted
  · simp at h

/-- Every descriptor of a run is what a declaration of the document is built into. -/
theorem exists_declaration_of_mem {op : OperationDescriptor}
    (h : op ∈ (generateOperations ctx).value) :
    ∃ d ∈ ctx.document.declarations, (buildOperation ctx d).value = some op := by
  obtain ⟨d, hd, hvalue⟩ := (mem_generateOperations (wanted_of_mem h)).mp h
  exact ⟨d, mem_of_mem_kept hd, hvalue⟩

end Document

/-- What a run makes of the operations of a document. -/
structure Walked (ctx : Context) (g : Generation) : Prop where
  /-- Each kept declaration has the descriptor it is built into, in the order of declaration. -/
  operations : g.operations.map some =
    (kept [] ctx.document.declarations).map fun d => (buildOperation ctx d).value
  distinct : (g.operations.map (·.operationId)).Nodup
  /-- After the document's own diagnostics, those about left-out operations are one for each
  declaration that is not kept. -/
  omitted : ∃ walk, g.diagnostics = ctx.document.diagnostics ++ walk ∧
    walk.filter (·.issue.omitsOperation) = omissions [] ctx.document.declarations ∧
    g.operations.length + (walk.filter (·.issue.omitsOperation)).length =
      ctx.document.declarations.length
  /-- Nothing but the kept declarations adds to the imports. -/
  imports : ∀ name, name ∈ g.imports.names ↔
    ∃ d ∈ kept [] ctx.document.declarations, ∃ op,
      (buildOperation ctx d).value = some op ∧ name ∈ op.imports.names

/-- Where operations are asked for, a document of the supported version gets a descriptor for the
first declaration of each claimed id, and a report for every other one. Both hypotheses say that
there is a walk at all: another version is refused, and settings that ask for no operations walk
none. -/
theorem generate_keeps_first_claims (ctx : Context)
    (version : ctx.document.checkVersion = .ok ())
    (wanted : ctx.settings.generateRequestTypes = true) :
    ∃ r, generate ctx = .ok r ∧ Walked ctx r.value := by
  refine ⟨generateAll ctx, generate_eq_ok.mpr ⟨version, rfl⟩, ?_⟩
  have hbuilt := generateOperations_map_some wanted
  have hreported := (walkOperations_run ctx covers_nil ctx.document.declarations).2
  rw [← generateOperations_eq_walk wanted] at hreported
  -- as many descriptors as kept declarations, since each of these is built
  have hlength : (generateOperations ctx).value.length =
      (kept [] ctx.document.declarations).length := by
    rw [← List.length_map some, hbuilt, List.length_map]
  refine ⟨hbuilt, ?_, ⟨_, diagnostics_generateAll ctx, hreported, ?_⟩, fun name => ?_⟩
  · rw [operations_generateAll, generateOperations_eq_walk wanted]
    exact (operationIds_walkOperations ctx [] _).2
  · rw [operations_generateAll, hreported, hlength]
    exact length_kept_add_omissions [] _
  · -- a descriptor of the run and a kept declaration that is built are the same thing
    rw [mem_imports_generateAll]
    constructor
    · rintro ⟨op, hop, hname⟩
      obtain ⟨d, hd, hvalue⟩ := (mem_generateOperations wanted).mp hop
      exact ⟨d, hd, op, hvalue, hname⟩
    · rintro ⟨d, hd, op, hvalue, hname⟩
      exact ⟨op, (mem_generateOperations wanted).mpr ⟨d, hd, hvalue⟩, hname⟩

/-- Two paths whose operations compete for one id: the first of them has an unsupported method, the
last comes too late, and one has no id. -/
def rivals : Context where
  document :=
    { swagger := some "2.0"
      paths := Keyed.ofList [
        ("/a", { operations := Keyed.ofList [
          ("head", { operationId := some "list" }),
          ("get", { operationId := some "list" }),
          ("post", {})] }),
        ("/b", { operations := Keyed.ofList [
          ("put", { operationId := some "list" }),
          ("delete", { operationId := some "purge" })] })] }
  settings := {}
  mapper := TypeMapper.standard

/-- A run with declarations that are left out for each of the three reasons. -/
theorem generate_rivals : rivals.document.checkVersion = .ok () ∧
    rivals.settings.generateRequestTypes = true ∧
    ∃ r, generate rivals = .ok r ∧ Walked rivals r.value :=
  ⟨rfl, rfl, generate_keeps_first_claims rivals rfl rfl⟩

example : (kept [] rivals.document.declarations).map (fun d => (d.method, d.path)) =
    [("get", "/a"), ("delete", "/b")] := by decide

end ServiceContract
