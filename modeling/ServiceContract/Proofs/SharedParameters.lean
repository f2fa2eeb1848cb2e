import ServiceContract.Proofs.Atomicity

/-!
# Shared parameters, by reference and in place

A parameter may consist of a pointer to a shared parameter and of nothing else. It is resolved along
a path of its own: the type of the shared parameter is looked up by a function that is used nowhere
else, and its name, its location and whether it is required are read off beside that. The outcome is
nevertheless what the shared parameter resolves to where it is declared in place: the same entry, and
the same models to import, or none.

This needs a name and a location that the shared parameter states itself, since the two paths have
different defaults for them. And it needs a shared parameter that is no reference to a further one:
in place its pointer is followed, by reference it is not.

Main results:

* `resolveParameter_of_states_named`, `resolveParameter_of_points` — the entry of a parameter that
  states its type, and of one that points to a definition.
* `shared_reference_skipped` — which references to shared parameters are skipped.
* `shared_reference_chained` — a reference to a reference to a shared parameter is skipped.
* `shared_reference_stands_for_shared` — a reference resolves as the shared parameter in place.
-/

namespace ServiceContract

variable {ctx : Context} {scope : String} {p : Parameter}

/-! ## The entry of a typed parameter -/

/-- A parameter with a type and a name resolves to what it states, in every document. -/
theorem resolveParameter_of_states_named (ctx : Context) (scope : String) {type name : String}
    (states : p.inlineType = some type) (named : p.name = some name) :
    resolveParameter ctx scope p = pure (some
      { name
        required := p.required
        type := ctx.mapper.inlineType type p.itemType
        location := p.location.getD .other }) := by
  rw [resolveParameter_of_stated states]
  simp only [resolveInline, named]

/-- A parameter that points to a definition resolves to it. Its name and its place are its own, if
it states them. -/
theorem resolveParameter_of_points (scope : String) {definition : String}
    (untyped : p.inlineType = none) (points : ctx.document.PointsTo p.pointer definition) :
    resolveParameter ctx scope p = Report.mention definition >>= fun _ => pure (some
      { name := p.name.getD (Text.uncapitalize definition)
        required := p.required
        type := definition
        location := p.location.getD .body }) := by
  rw [resolveParameter_of_definition untyped points.1]
  simp only [resolveDefinition, points.2, if_true]

/-- What neither states a type nor refers to a definition is skipped. -/
theorem skipped_of_untyped (hstates : ∀ type item, ¬ ctx.document.StatesType p type item)
    (hrefers : ∀ name, ¬ ctx.document.RefersTo p name) :
    (resolveParameter ctx scope p).value = none ∧
      (resolveParameter ctx scope p).findings.models = [] := by
  have hatomic : (resolveParameter ctx scope p).Atomic scope (ctx.Types p) :=
    resolveParameter_atomic
  rcases hatomic with ⟨issue, hvalue, hmodels, -⟩ | ⟨e, -, -, htypes⟩
  · exact ⟨hvalue, hmodels⟩
  · generalize (resolveParameter ctx scope p).findings.models = models at htypes
    cases htypes with
    | inPlace stated _ => exact absurd stated (hstates _ _)
    | definition refers => exact absurd refers (hrefers _)

/-! ## References to a shared parameter -/

section Reference

variable {pointer key : String} {shared : Parameter}
  (reference : Reference.ofPointer? pointer = some ⟨.parameter, key⟩)
  (found : ctx.document.sharedParameter? key = some shared)

include reference found

/-- The type of a reference is the type of the shared parameter, under the name, the location and
the requiredness of that one. -/
theorem resolveParameter_of_reference (scope : String) :
    resolveParameter ctx scope { reference := some pointer } =
      resolveSharedType ctx scope key shared >>= fun type => pure (type.map fun type =>
        { name := shared.name.getD (Text.uncapitalize key)
          required := shared.required
          type
          location := shared.location.getD .other }) := by
  have hlink : (Parameter.pointer { reference := some pointer }).bind Reference.ofPointer? =
      some ⟨.parameter, key⟩ := reference
  rw [resolveParameter_of_parameter rfl hlink]
  simp only [resolveShared, found]
  rfl

/-- A reference is skipped if the shared parameter states no type and points to no definition. -/
theorem shared_reference_skipped (scope : String) (untyped : shared.inlineType = none)
    (hpoints : ∀ name, ¬ ctx.document.PointsTo shared.pointer name) :
    (resolveParameter ctx scope { reference := some pointer }).value = none ∧
      (resolveParameter ctx scope { reference := some pointer }).findings.models = [] := by
  have hnone : ctx.sharedDefinition? shared = none := by
    rw [Option.eq_none_iff_forall_ne_some]
    intro name hname
    exact hpoints name (sharedDefinition?_eq_some.mp hname)
  rw [resolveParameter_of_reference reference found scope]
  simp only [resolveSharedType, untyped, hnone, Report.value_bind, Report.value_skip,
    Option.map_none, Report.value_pure, Report.findings_bind, Report.findings_pure,
    Findings.append_empty, Report.models_skip, and_self]

/-- A reference to a shared parameter that is itself a reference to one is skipped, though the shared
parameter in place would be resolved by what it refers to. -/
theorem shared_reference_chained (scope : String) {next : String}
    (untyped : shared.inlineType = none)
    (chained : shared.pointer.bind Reference.ofPointer? = some ⟨.parameter, next⟩) :
    (resolveParameter ctx scope { reference := some pointer }).value = none ∧
      resolveParameter ctx scope shared = resolveShared ctx scope shared next := by
  refine ⟨(shared_reference_skipped reference found scope untyped ?_).1,
    resolveParameter_of_parameter untyped chained⟩
  intro name hpoints
  cases hpoints.1.symm.trans chained

end Reference

/-- What `shared` refers to, if anything, is no shared parameter but the one under `key`. -/
def Document.RefersToNoneBut (d : Document) (key : String) (shared : Parameter) : Prop :=
  ∀ next, shared.pointer.bind Reference.ofPointer? = some ⟨.parameter, next⟩ →
    (d.sharedParameter? next).isSome = true → next = key

/-- In place, a shared parameter that states no type and points to no definition is skipped as well,
unless it leads to another one. -/
theorem shared_in_place_skipped (scope : String) {key : String} {shared : Parameter}
    (found : ctx.document.sharedParameter? key = some shared)
    (last : ctx.document.RefersToNoneBut key shared) (untyped : shared.inlineType = none)
    (hpoints : ∀ name, ¬ ctx.document.PointsTo shared.pointer name) :
    (resolveParameter ctx scope shared).value = none ∧
      (resolveParameter ctx scope shared).findings.models = [] := by
  -- a link to a shared parameter can only lead back to this one
  have hback : ∀ next target, shared.pointer.bind Reference.ofPointer? = some ⟨.parameter, next⟩ →
      ctx.document.sharedParameter? next = some target → target = shared := by
    intro next target hlink htarget
    have hnext : next = key := last next hlink (Option.isSome_of_eq_some htarget)
    rw [hnext, found] at htarget
    exact (Option.some.inj htarget).symm
  refine skipped_of_untyped ?_ ?_
  · intro type item hstates
    cases hstates with
    | own stated => cases untyped.symm.trans stated
    | shared _ hlink htarget stated =>
      rw [hback _ _ hlink htarget] at stated
      cases untyped.symm.trans stated
  · intro name hrefers
    cases hrefers with
    | own _ points => exact hpoints name points
    | shared next target _ hlink htarget _ points =>
      rw [hback next target hlink htarget] at points
      exact hpoints name points

/-- A parameter stands for a shared one: it resolves to the same entry, or is skipped like it, and
does the same to what is imported. -/
structure StandsFor (ctx : Context) (scope : String) (p shared : Parameter) : Prop where
  value : (resolveParameter ctx scope p).value = (resolveParameter ctx scope shared).value
  imports : ∀ imports : ImportSet,
    imports.insertAll (resolveParameter ctx scope p).findings.models =
      imports.insertAll (resolveParameter ctx scope shared).findings.models
  /-- The entry has what the shared parameter states. -/
  entry : ∀ e, (resolveParameter ctx scope p).value = some e →
    some e.name = shared.name ∧ e.required = shared.required ∧ some e.location = shared.location
  /-- It is skipped exactly if nothing types it. -/
  skipped : (resolveParameter ctx scope p).value = none ↔
    shared.inlineType = none ∧ ∀ name, ¬ ctx.document.PointsTo shared.pointer name

/-- If both resolve to one entry, and the entry has what the shared parameter states, the one stands
for the other. -/
theorem standsFor_of_entry {shared : Parameter} {e : ParameterEntry}
    (same : resolveParameter ctx scope p = resolveParameter ctx scope shared)
    (value : (resolveParameter ctx scope shared).value = some e)
    (states : some e.name = shared.name ∧ e.required = shared.required ∧
      some e.location = shared.location)
    (typed : shared.inlineType = none → ∃ name, ctx.document.PointsTo shared.pointer name) :
    StandsFor ctx scope p shared := by
  rw [← same] at value
  refine ⟨by rw [same], fun imports => by rw [same], ?_, ?_⟩
  · intro found hfound
    rw [value, Option.some.injEq] at hfound
    rw [← hfound]
    exact states
  · -- nothing is skipped on either side, and the shared parameter is typed
    rw [value]
    constructor
    · intro hnone
      cases hnone
    · rintro ⟨huntyped, hpoints⟩
      obtain ⟨name, hname⟩ := typed huntyped
      exact absurd hname (hpoints name)

/-- If both are skipped and nothing types the shared one, it stands for it as well, although the two
are skipped with words of their own. -/
theorem standsFor_of_skipped {shared : Parameter}
    (skipped : (resolveParameter ctx scope p).value = none ∧
      (resolveParameter ctx scope p).findings.models = [])
    (inPlace : (resolveParameter ctx scope shared).value = none ∧
      (resolveParameter ctx scope shared).findings.models = [])
    (untyped : shared.inlineType = none)
    (hpoints : ∀ name, ¬ ctx.document.PointsTo shared.pointer name) :
    StandsFor ctx scope p shared := by
  obtain ⟨hvalue, hmodels⟩ := skipped
  obtain ⟨hvalue', hmodels'⟩ := inPlace
  refine ⟨hvalue.trans hvalue'.symm, fun imports => by rw [hmodels, hmodels'], ?_, ?_⟩
  · intro e he
    cases hvalue.symm.trans he
  · exact ⟨fun _ => ⟨untyped, hpoints⟩, fun _ => hvalue⟩

/-- A parameter that is nothing but a reference to a shared parameter resolves as the shared one
does in place, if that one states its name and its location and refers to no further shared
parameter. It has to state its name and its location since in place it would have other defaults: a
reference is named after its key, and lies nowhere in particular. What it refers to in turn is not
followed from the reference, but would be in place. -/
theorem shared_reference_stands_for_shared (ctx : Context) (scope : String)
    {pointer key name : String} {shared : Parameter} {location : ParameterLocation}
    (reference : Reference.ofPointer? pointer = some ⟨.parameter, key⟩)
    (found : ctx.document.sharedParameter? key = some shared)
    (named : shared.name = some name) (located : shared.location = some location)
    (last : ctx.document.RefersToNoneBut key shared) :
    StandsFor ctx scope { reference := some pointer } shared := by
  have hreference := resolveParameter_of_reference reference found scope
  rw [named, located, Option.getD_some, Option.getD_some] at hreference
  cases htype : shared.inlineType with
  | some type =>
    -- both paths write the type that is stated, and mention nothing
    have hplace := resolveParameter_of_states_named ctx scope htype named
    rw [located, Option.getD_some] at hplace
    simp only [resolveSharedType, htype, pure_bind, Option.map_some] at hreference
    refine standsFor_of_entry (hreference.trans hplace.symm) (congrArg Report.value hplace)
      ⟨named.symm, rfl, located.symm⟩ ?_
    intro huntyped
    cases htype.symm.trans huntyped
  | none =>
    by_cases hpoints : ∃ definition, ctx.document.PointsTo shared.pointer definition
    · -- both paths mention the definition, and have it as the type
      obtain ⟨definition, hpoints⟩ := hpoints
      have hplace := resolveParameter_of_points scope htype hpoints
      rw [named, located, Option.getD_some, Option.getD_some] at hplace
      simp only [resolveSharedType, htype, sharedDefinition?_eq_some.mpr hpoints, bind_assoc,
        pure_bind, Option.map_some] at hreference
      exact standsFor_of_entry (hreference.trans hplace.symm) (congrArg Report.value hplace)
        ⟨named.symm, rfl, located.symm⟩ fun _ => ⟨definition, hpoints⟩
    · have hnone : ∀ definition, ¬ ctx.document.PointsTo shared.pointer definition :=
        not_exists.mp hpoints
      exact standsFor_of_skipped (shared_reference_skipped reference found scope htype hnone)
        (shared_in_place_skipped scope found last htype hnone) htype hnone

/-- A shared body that is typed by a definition. -/
def orderBody : Parameter where
  name := some "order"
  location := some .body
  required := true
  schema := some ⟨some "#/definitions/Order", none, none⟩

/-- A shared parameter that is a reference to the shared body. -/
def bodyAgain : Parameter where
  name := some "order"
  location := some .body
  reference := some "#/parameters/Body"

/-- A document with both. -/
def sharedBodies : Context where
  document :=
    { definitions := Keyed.ofList [("Order", .object [])]
      parameters := some (Keyed.ofList [("Body", orderBody), ("Again", bodyAgain)]) }
  settings := {}
  mapper := TypeMapper.standard

/-- A shared body meets what is asked, and a reference to it stands for it. -/
theorem orderBody_stands_for_shared :
    Reference.ofPointer? "#/parameters/Body" = some ⟨.parameter, "Body"⟩ ∧
      sharedBodies.document.sharedParameter? "Body" = some orderBody ∧
      sharedBodies.document.RefersToNoneBut "Body" orderBody ∧
      StandsFor sharedBodies "list" { reference := some "#/parameters/Body" } orderBody := by
  have hreference : Reference.ofPointer? "#/parameters/Body" = some ⟨.parameter, "Body"⟩ := by
    decide +kernel
  have hlast : sharedBodies.document.RefersToNoneBut "Body" orderBody := by
    intro next hlink _
    have hdefinition : Reference.ofPointer? "#/definitions/Order" = some ⟨.definition, "Order"⟩ := by
      decide +kernel
    cases hdefinition.symm.trans hlink
  exact ⟨hreference, rfl, hlast,
    shared_reference_stands_for_shared sharedBodies "list" hreference rfl rfl rfl hlast⟩

/-- A reference to the second one is skipped, though in place it is typed by the definition. -/
example :
    (resolveParameter sharedBodies "list" { reference := some "#/parameters/Again" }).value = none ∧
      (resolveParameter sharedBodies "list" bodyAgain).value =
        some ⟨"order", true, "Order", .body⟩ := by
  decide +kernel

end ServiceContract
