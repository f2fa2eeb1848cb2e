import Mathlib.Data.List.Forall2
import ServiceContract.Proofs.Atomicity

/-!
# What responses are typed by

A declared response is typed by the definition that its schema refers to. Where there is none the
settings have a type for it, one for success and one for all other statuses. A reference that leads
to no definition of the document is reported, and the default stands in for it.

The entries, the models to import and the diagnostics are made in one pass. Here each of them is said
on its own: `Context.MapsTo` is what the entry of a response is, `Document.PointsTo` which model is
imported for it, and `Context.Dangles` and `Context.Reports` what is reported, and of which responses.

Main results:

* `mapsTo_entryOf`           — the entry of a response is the one that the rule asks for.
* `exists_report_of_dangles` — a reference that dangles is reported once;
  `diagnostics_of_not_dangles` says that nothing else is.
* `responses_mapped_by_rule` — what the responses of an operation are mapped to, and what a caller
  has before and after it.
-/

namespace ServiceContract

/-! ## Types -/

/-- `entry` is what the declared response is mapped to. -/
structure Context.MapsTo (ctx : Context) (declared : String × Response) (entry : ResponseEntry) :
    Prop where
  status : entry.status = declared.1
  /-- A definition that the schema refers to is the type. -/
  definition : ∀ name,
    ctx.document.PointsTo (declared.2.schema.bind Schema.reference) name → entry.type = name
  /-- Without one, a status of three bytes that starts with a two has the type for success. -/
  success : (∀ name, ¬ ctx.document.PointsTo (declared.2.schema.bind Schema.reference) name) →
    declared.1.utf8ByteSize = 3 ∧ declared.1.toList.head? = some '2' →
    entry.type = ctx.settings.defaultSuccessType
  /-- Any other status has the type for errors then. -/
  error : (∀ name, ¬ ctx.document.PointsTo (declared.2.schema.bind Schema.reference) name) →
    ¬ (declared.1.utf8ByteSize = 3 ∧ declared.1.toList.head? = some '2') →
    entry.type = ctx.settings.defaultErrorType

variable {ctx : Context}

/-- A response without a model points to no definition that the document has. -/
theorem modelOf?_eq_none {response : Response} :
    ctx.modelOf? response = none ↔
      ∀ name, ¬ ctx.document.PointsTo (response.schema.bind Schema.reference) name := by
  rw [Option.eq_none_iff_forall_ne_some]
  exact forall_congr' fun name => not_congr modelOf?_eq_some

/-- The entry of a response is the one that the rule asks for. -/
theorem mapsTo_entryOf (declared : String × Response) :
    ctx.MapsTo declared (ctx.entryOf declared) := by
  cases hmodel : ctx.modelOf? declared.2 with
  | some model =>
    -- the schema refers to a definition, so neither default is asked for
    have hpoints := modelOf?_eq_some.mp hmodel
    rw [Context.entryOf_of_some hmodel]
    refine ⟨rfl, ?_, ?_, ?_⟩
    · intro name hname
      exact Option.some.inj (hmodel.symm.trans (modelOf?_eq_some.mpr hname))
    · intro hnone
      exact absurd hpoints (hnone model)
    · intro hnone
      exact absurd hpoints (hnone model)
  | none =>
    rw [Context.entryOf_of_none hmodel]
    refine ⟨rfl, ?_, ?_, ?_⟩
    · intro name hname
      exact absurd hname (modelOf?_eq_none.mp hmodel name)
    · intro _ hsuccess
      exact if_pos (isSuccessStatus_iff.mpr hsuccess)
    · intro _ herror
      exact if_neg (mt isSuccessStatus_iff.mp herror)

/-! ## Reports -/

/-- The schema of the response refers to something that is no definition of the document. -/
def Context.Dangles (ctx : Context) (response : Response) : Prop :=
  ∃ pointer, response.schema.bind Schema.reference = some pointer ∧
    ∀ name, ¬ ctx.document.PointsTo (some pointer) name

/-- A response dangles if its schema carries a pointer that leads to no definition. -/
theorem dangles_iff {response : Response} :
    ctx.Dangles response ↔
      (response.schema.bind Schema.reference).isSome = true ∧ ctx.modelOf? response = none := by
  rw [Context.Dangles, modelOf?_eq_none]
  cases response.schema.bind Schema.reference with
  | none => simp
  | some pointer => simp

instance (ctx : Context) (response : Response) : Decidable (ctx.Dangles response) :=
  decidable_of_iff _ dangles_iff.symm

/-- The issue with a response whose reference dangles. -/
inductive Context.Reports (ctx : Context) (declared : String × Response) : Issue → Prop
  /-- The reference has the form of one to a definition, but the document has none of that name. -/
  | unknown {pointer name : String}
      (carries : declared.2.schema.bind Schema.reference = some pointer)
      (reference : Reference.ofPointer? pointer = some ⟨.definition, name⟩)
      (undefined : ctx.document.defines name = false) :
      ctx.Reports declared (.unknownResponseDefinition declared.1 name)
  /-- The pointer is that of no definition at all. -/
  | unusable {pointer : String}
      (carries : declared.2.schema.bind Schema.reference = some pointer)
      (foreign : ∀ name, Reference.ofPointer? pointer ≠ some ⟨.definition, name⟩) :
      ctx.Reports declared (.unusableResponseReference declared.1 pointer)

/-- Only the look-up of the model reports. -/
theorem diagnostics_resolveResponse (scope : String) (declared : String × Response) :
    (resolveResponse ctx scope declared).findings.diagnostics =
      (resolveModel ctx scope declared.1 declared.2).findings.diagnostics := by
  rw [resolveResponse, Report.findings_bind, Findings.diagnostics_append]
  cases (resolveModel ctx scope declared.1 declared.2).value with
  | none => exact List.append_nil _
  | some name => exact List.append_nil _

/-- A reference that dangles is reported once, for the reason that it has. -/
theorem exists_report_of_dangles (scope : String) {declared : String × Response}
    (h : ctx.Dangles declared.2) :
    ∃ issue, ctx.Reports declared issue ∧
      (resolveResponse ctx scope declared).findings.diagnostics = [⟨scope, issue⟩] := by
  obtain ⟨pointer, hcarries, hnone⟩ := h
  rw [diagnostics_resolveResponse, resolveModel]
  -- either the document lacks the definition, or the pointer is that of none
  by_cases hdefinition : ∃ name, Reference.ofPointer? pointer = some ⟨.definition, name⟩
  · obtain ⟨name, hreference⟩ := hdefinition
    have hundefined : ctx.document.defines name = false :=
      Bool.eq_false_iff.mpr fun hdefines => hnone name ⟨hreference, hdefines⟩
    refine ⟨_, .unknown hcarries hreference hundefined, ?_⟩
    simp only [hcarries, hreference, hundefined, Bool.false_eq_true, if_false,
      Report.diagnostics_skip]
  · have hforeign := not_exists.mp hdefinition
    refine ⟨_, .unusable hcarries hforeign, ?_⟩
    simp only [hcarries]
    rfl

/-- Nothing else about a response is reported. -/
theorem diagnostics_of_not_dangles (scope : String) {declared : String × Response}
    (h : ¬ ctx.Dangles declared.2) :
    (resolveResponse ctx scope declared).findings.diagnostics = [] := by
  rw [diagnostics_resolveResponse, resolveModel]
  cases hcarries : declared.2.schema.bind Schema.reference with
  | none => rfl
  | some pointer =>
    -- a pointer that does not dangle leads to a definition, and that is no issue
    obtain ⟨name, hreference, hdefines⟩ :
        ∃ name, ctx.document.PointsTo (some pointer) name := by
      by_contra hnone
      exact h ⟨pointer, hcarries, not_exists.mp hnone⟩
    rw [Option.bind_some] at hreference
    simp only [hreference, hdefines, if_true, Report.findings_pure]

/-! ## All responses of an operation -/

/-- Items of one kind make for one element each, all others for none. -/
theorem forall₂_filter_flatMap {α β : Type} {R : α → β → Prop} {P : α → Prop} [DecidablePred P]
    {f : α → List β} {items : List α} (hone : ∀ a ∈ items, P a → ∃ b, R a b ∧ f a = [b])
    (hnone : ∀ a ∈ items, ¬ P a → f a = []) :
    List.Forall₂ R (items.filter fun a => decide (P a)) (items.flatMap f) := by
  induction items with
  | nil => exact .nil
  | cons a rest ih =>
    obtain ⟨honeHere, honeRest⟩ := List.forall_mem_cons.mp hone
    obtain ⟨hnoneHere, hnoneRest⟩ := List.forall_mem_cons.mp hnone
    rw [List.flatMap_cons, List.filter_cons]
    by_cases hp : P a
    · obtain ⟨b, hab, hf⟩ := honeHere hp
      rw [if_pos (decide_eq_true hp), hf]
      exact .cons hab (ih honeRest hnoneRest)
    · rw [if_neg (by simpa using hp), hnoneHere hp]
      exact ih honeRest hnoneRest

/-- Responses are reported on one by one, in the order of their declaration. -/
theorem diagnostics_resolveResponses (scope : String) (responses : Keyed Response) :
    (resolveResponses ctx scope responses).findings.diagnostics =
      responses.entries.flatMap fun declared =>
        (resolveResponse ctx scope declared).findings.diagnostics := by
  rw [resolveResponses, Report.findings_each, Findings.diagnostics_concat, List.flatMap_map]

/-- How the responses of an operation are mapped, and what a caller has before and after it. -/
structure MapsResponses (ctx : Context) (scope : String) (responses : Keyed Response)
    (entries : List ResponseEntry) (before after : Collected) : Prop where
  /-- There is one entry for each response, in their order. -/
  entries : List.Forall₂ ctx.MapsTo responses.entries entries
  /-- The definitions that responses refer to are imported, and nothing else is. -/
  imports : ∀ name, name ∈ after.imports.names ↔ name ∈ before.imports.names ∨
    ∃ declared ∈ responses.entries,
      ctx.document.PointsTo (declared.2.schema.bind Schema.reference) name
  /-- There is one diagnostic for each response whose reference dangles, in their order. -/
  diagnostics : ∃ reported, after.diagnostics = before.diagnostics ++ reported ∧
    List.Forall₂ (fun declared d => d.scope = scope ∧ ctx.Reports declared d.issue)
      (responses.entries.filter fun declared => ctx.Dangles declared.2) reported

/-- Responses are mapped by the rule: each to the definition it refers to, else to the default of
its status; the definitions are imported, and the references that dangle are reported. What was
collected `before` is kept, whatever it is, and the rule does not look at it. -/
theorem responses_mapped_by_rule (ctx : Context) (scope : String) (responses : Keyed Response)
    (before : Collected) :
    MapsResponses ctx scope responses (resolveResponses ctx scope responses).value before
      (before.add (resolveResponses ctx scope responses).findings) where
  entries := by
    rw [value_resolveResponses, List.forall₂_map_right_iff, List.forall₂_same]
    exact fun declared _ => mapsTo_entryOf declared
  imports name := by
    rw [Collected.add, ImportSet.mem_insertAll, mem_models_resolveResponses]
    simp only [modelOf?_eq_some]
  diagnostics := by
    refine ⟨_, rfl, ?_⟩
    rw [diagnostics_resolveResponses]
    -- a response whose reference dangles is reported on once, any other not at all
    refine forall₂_filter_flatMap (fun declared _ hdangles => ?_) fun declared _ hkept => ?_
    · obtain ⟨issue, hreports, hdiagnostics⟩ := exists_report_of_dangles scope hdangles
      exact ⟨⟨scope, issue⟩, ⟨rfl, hreports⟩, hdiagnostics⟩
    · exact diagnostics_of_not_dangles scope hkept

/-- A document with one model. -/
def oneModel : Context where
  document := { definitions := Keyed.ofList [("Order", .null)] }
  settings := {}
  mapper := TypeMapper.standard

example :
    let r := resolveResponses oneModel "buy" (Keyed.ofList [
      ("404", {}), ("200", { schema := some ⟨some "#/definitions/Order", none, none⟩ }),
      ("204", { schema := some ⟨some "#/definitions/Receipt", none, none⟩ }),
      ("default", { schema := some ⟨some "#/responses/Order", none, none⟩ })])
    r.value = [⟨"404", "Error"⟩, ⟨"200", "Order"⟩, ⟨"204", "undefined"⟩, ⟨"default", "Error"⟩] ∧
      r.findings.models = ["Order"] ∧
      r.findings.diagnostics = [⟨"buy", .unknownResponseDefinition "204" "Receipt"⟩,
        ⟨"buy", .unusableResponseReference "default" "#/responses/Order"⟩] := by
  decide +kernel

end ServiceContract
