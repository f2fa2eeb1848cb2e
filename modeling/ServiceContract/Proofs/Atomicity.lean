import ServiceContract.Proofs.MappedTypes

/-!
# Resolving a parameter is all or nothing

Resolving ends in one of three ways. The parameter is skipped: there is one diagnostic and nothing
is imported. Or its entry has a type that is stated in place: nothing is imported and nothing is
said. Or its entry has the type of a definition: this definition is imported, and nothing is said.
No model is imported for a parameter that is skipped in the end, and none is skipped in silence.

`Report.Atomic` is what such steps have in common; a step that is built from atomic steps is atomic.

Main results:

* `Atomic.map`                           — what an atomic step gives may be worked on.
* `resolveParameter_atomic`              — resolving a parameter is atomic, and what types its entry.
* `parameters_resolve_atomically`        — the same for what a caller has before and after.
* `collectParameters_collected`          — a caller collects parameter by parameter.
* `length_diagnostics_collectParameters` — as many diagnostics as parameters are skipped.
-/

namespace ServiceContract

/-! ## Atomic steps -/

/-- The step either gives nothing, records one diagnostic and mentions nothing, or it gives a value
and records none. Of the value and the models that are mentioned for it `P` holds. -/
def Report.Atomic {α : Type} (scope : String) (P : α → List String → Prop)
    (r : Report (Option α)) : Prop :=
  (∃ issue, r.value = none ∧ r.findings.models = [] ∧ r.findings.diagnostics = [⟨scope, issue⟩]) ∨
    ∃ a, r.value = some a ∧ r.findings.diagnostics = [] ∧ P a r.findings.models

namespace Report.Atomic

variable {α β : Type} {scope : String} {P : α → List String → Prop} {Q : β → List String → Prop}

theorem skip (issue : Issue) : (Report.skip scope issue : Report (Option α)).Atomic scope P :=
  Or.inl ⟨issue, rfl, rfl, rfl⟩

theorem pure {a : α} (h : P a []) : (Pure.pure (some a) : Report (Option α)).Atomic scope P :=
  Or.inr ⟨a, rfl, rfl, h⟩

theorem mention {a : α} {name : String} (h : P a [name]) :
    (Report.mention name >>= fun _ => Pure.pure (some a)).Atomic scope P :=
  Or.inr ⟨a, rfl, rfl, h⟩

/-- What an atomic step gives may be worked on. -/
theorem map {r : Report (Option α)} (f : α → β) (h : r.Atomic scope P)
    (himp : ∀ a models, P a models → Q (f a) models) :
    (r >>= fun value => Pure.pure (value.map f)).Atomic scope Q := by
  have hfindings : (r >>= fun value => (Pure.pure (value.map f) : Report (Option β))).findings =
      r.findings := by
    rw [Report.findings_bind, Report.findings_pure, Findings.append_empty]
  rcases h with ⟨issue, hvalue, hmodels, hdiagnostics⟩ | ⟨a, hvalue, hdiagnostics, hP⟩
  · refine Or.inl ⟨issue, ?_, by rw [hfindings, hmodels], by rw [hfindings, hdiagnostics]⟩
    rw [Report.value_bind, hvalue, Option.map_none, Report.value_pure]
  · refine Or.inr ⟨f a, ?_, by rw [hfindings, hdiagnostics], ?_⟩
    · rw [Report.value_bind, hvalue, Option.map_some, Report.value_pure]
    · rw [hfindings]
      exact himp a _ hP

end Report.Atomic

/-! ## Parameters -/

/-- What an entry of the parameter is typed by, and the models that are mentioned for it. -/
inductive Context.Types (ctx : Context) (p : Parameter) (e : ParameterEntry) : List String → Prop
  /-- A type that the parameter, or the shared parameter it refers to, states in place. -/
  | inPlace {type : String} {item : Option String} (stated : ctx.document.StatesType p type item)
      (type_eq : e.type = ctx.mapper.inlineType type item) : ctx.Types p e []
  /-- The definition that the parameter refers to. -/
  | definition (refers : ctx.document.RefersTo p e.type) : ctx.Types p e [e.type]

variable {ctx : Context} {scope : String} {p : Parameter}

/-- A type that is stated in place imports nothing. Without a name the parameter is skipped. -/
theorem resolveInline_atomic {type : String} (htype : p.inlineType = some type) :
    (resolveInline ctx scope p type).Atomic scope (ctx.Types p) := by
  unfold resolveInline
  cases p.name with
  | none => exact .skip _
  | some name => exact .pure (.inPlace (.own htype) rfl)

/-- A definition is imported only if there is one of that name, so what is imported can be found. -/
theorem resolveDefinition_atomic {label name : String} (huntyped : p.inlineType = none)
    (hreference : p.pointer.bind Reference.ofPointer? = some ⟨.definition, name⟩) :
    (resolveDefinition ctx scope p label name).Atomic scope (ctx.Types p) := by
  unfold resolveDefinition
  split
  · next hdefines => exact .mention (.definition (.own huntyped ⟨hreference, hdefines⟩))
  · exact .skip _

/-- The type of a shared parameter is the one it states, or the definition it refers to. -/
theorem resolveSharedType_atomic {key : String} {target : Parameter} :
    (resolveSharedType ctx scope key target).Atomic scope fun type models =>
      (∃ stated, target.inlineType = some stated ∧ models = [] ∧
        type = ctx.mapper.inlineType stated target.itemType) ∨
      (target.inlineType = none ∧ models = [type] ∧
        ctx.document.PointsTo target.pointer type) := by
  unfold resolveSharedType
  cases htype : target.inlineType with
  | some stated => exact .pure (Or.inl ⟨stated, rfl, rfl, rfl⟩)
  | none =>
    cases hdefinition : ctx.sharedDefinition? target with
    | none => exact .skip _
    | some definition =>
      exact .mention (Or.inr ⟨rfl, rfl, sharedDefinition?_eq_some.mp hdefinition⟩)

/-- A shared parameter is looked at once: what it refers to counts, not what that refers to in
turn. -/
theorem resolveShared_atomic {key : String} (huntyped : p.inlineType = none)
    (hreference : p.pointer.bind Reference.ofPointer? = some ⟨.parameter, key⟩) :
    (resolveShared ctx scope p key).Atomic scope (ctx.Types p) := by
  unfold resolveShared
  cases hfound : ctx.document.sharedParameter? key with
  | none => exact .skip _
  | some target =>
    refine resolveSharedType_atomic.map _ fun type models htype => ?_
    rcases htype with ⟨stated, hstated, rfl, rfl⟩ | ⟨huntypedTarget, rfl, hpoints⟩
    · exact .inPlace (.shared huntyped hreference hfound hstated) rfl
    · exact .definition (.shared key target huntyped hreference hfound huntypedTarget hpoints)

/-- Resolving a parameter is atomic, and its entry is typed by what the parameter states or refers
to. -/
theorem resolveParameter_atomic : (resolveParameter ctx scope p).Atomic scope (ctx.Types p) := by
  cases p.typing with
  | stated type states =>
    rw [resolveParameter_of_stated states]
    exact resolveInline_atomic states
  | definition name untyped reference =>
    rw [resolveParameter_of_definition untyped reference]
    exact resolveDefinition_atomic untyped reference
  | parameter key untyped reference =>
    rw [resolveParameter_of_parameter untyped reference]
    exact resolveShared_atomic untyped reference
  | nothing untyped foreign =>
    obtain ⟨issue, -, hskip⟩ := exists_skip_of_nothing untyped foreign
    rw [hskip]
    exact .skip issue

/-! ## One source for each type -/

/-- A parameter refers to one definition at most. Its own pointer leads to one place, and so does
that of the shared parameter it may stand for. -/
theorem Document.RefersTo.unique {d : Document} {name other : String} (h : d.RefersTo p name)
    (hother : d.RefersTo p other) : name = other := by
  cases h with
  | own _ points =>
    cases hother with
    | own _ points' => cases points.1.symm.trans points'.1; rfl
    | shared _ _ _ reference _ _ _ => cases points.1.symm.trans reference
  | shared _ _ _ reference found _ points =>
    cases hother with
    | own _ points' => cases points'.1.symm.trans reference
    | shared _ _ _ reference' found' _ points' =>
      -- one pointer, one shared parameter, and so one pointer of that
      cases reference.symm.trans reference'
      cases found.symm.trans found'
      cases points.1.symm.trans points'.1
      rfl

/-- It states one type at most: a type of its own excludes that of a shared parameter. -/
theorem Document.StatesType.unique {d : Document} {type other : String}
    {item otherItem : Option String} (h : d.StatesType p type item)
    (hother : d.StatesType p other otherItem) : type = other ∧ item = otherItem := by
  cases h with
  | own stated =>
    cases hother with
    | own stated' => cases stated.symm.trans stated'; exact ⟨rfl, rfl⟩
    | shared untyped _ _ _ => cases untyped.symm.trans stated
  | shared untyped reference found stated =>
    cases hother with
    | own stated' => cases untyped.symm.trans stated'
    | shared _ reference' found' stated' =>
      cases reference.symm.trans reference'
      cases found.symm.trans found'
      cases stated.symm.trans stated'
      exact ⟨rfl, rfl⟩

/-- A parameter does not at once refer to a definition and state a type in place. -/
theorem not_statesType_of_refersTo {d : Document} {name type : String} {item : Option String}
    (hrefers : d.RefersTo p name) : ¬ d.StatesType p type item := by
  intro hstates
  cases hstates with
  | own stated =>
    cases hrefers with
    | own untyped _ => cases untyped.symm.trans stated
    | shared _ _ untyped _ _ _ _ => cases untyped.symm.trans stated
  | shared _ reference found stated =>
    cases hrefers with
    | own _ points => cases points.1.symm.trans reference
    | shared _ _ _ reference' found' untypedTarget _ =>
      -- both follow the same two links, at whose end there is a type or there is none
      cases reference'.symm.trans reference
      cases found'.symm.trans found
      cases untypedTarget.symm.trans stated

/-! ## What a caller has collected -/

/-- What a caller has collected from the steps so far: the models to import, and the diagnostics. -/
structure Collected where
  imports : ImportSet
  diagnostics : List Diagnostic

/-- The findings of one more step are added: its models to the set, its diagnostics at the end. -/
def Collected.add (before : Collected) (findings : Findings) : Collected where
  imports := before.imports.insertAll findings.models
  diagnostics := before.diagnostics ++ findings.diagnostics

/-- How the resolving of a parameter ends, and what a caller has before and after it. -/
structure ResolvesAtomically (ctx : Context) (scope : String) (p : Parameter)
    (value : Option ParameterEntry) (before after : Collected) : Prop where
  /-- It gives nothing exactly if it records one diagnostic. -/
  skipped : value = none ↔ ∃ issue, after.diagnostics = before.diagnostics ++ [⟨scope, issue⟩]
  unchanged : value = none → after.imports = before.imports
  /-- It gives an entry exactly if it records none. -/
  resolved : (∃ e, value = some e) ↔ after.diagnostics = before.diagnostics
  /-- The type of an entry is a definition or stated in place. -/
  source : ∀ e, value = some e → (∃ name, ctx.document.RefersTo p name) ∨
    ∃ type item, ctx.document.StatesType p type item
  definition : ∀ e name, value = some e → ctx.document.RefersTo p name →
    e.type = name ∧ ctx.document.defines name = true ∧
      after.imports = before.imports.insert name
  inPlace : ∀ e type item, value = some e → ctx.document.StatesType p type item →
    e.type = ctx.mapper.inlineType type item ∧ after.imports = before.imports

/-- A skipped parameter: one more diagnostic, and the imports as they were. -/
theorem resolvesAtomically_none {before after : Collected} {issue : Issue}
    (himports : after.imports = before.imports)
    (hdiagnostics : after.diagnostics = before.diagnostics ++ [⟨scope, issue⟩]) :
    ResolvesAtomically ctx scope p none before after := by
  -- a list with one more element is another list, so the two answers exclude each other
  have hlonger : ¬ after.diagnostics = before.diagnostics := by
    intro hsame
    have hlength := congrArg List.length hsame
    rw [hdiagnostics, List.length_append, List.length_singleton] at hlength
    omega
  refine ⟨⟨fun _ => ⟨issue, hdiagnostics⟩, fun _ => rfl⟩, fun _ => himports, ⟨?_, ?_⟩, ?_, ?_, ?_⟩
  · rintro ⟨e, he⟩
    cases he
  · intro hsame
    exact absurd hsame hlonger
  · intro e he
    cases he
  · intro e name he
    cases he
  · intro e type item he
    cases he

/-- A resolved parameter: the diagnostics as they were, and the imports grown by what its type
mentions. -/
theorem resolvesAtomically_some {before after : Collected} {e : ParameterEntry}
    {models : List String} (htypes : ctx.Types p e models)
    (himports : after.imports = before.imports.insertAll models)
    (hdiagnostics : after.diagnostics = before.diagnostics) :
    ResolvesAtomically ctx scope p (some e) before after := by
  -- the diagnostics that were not added to are not one longer
  have hnotLonger : ¬ ∃ issue, after.diagnostics = before.diagnostics ++ [⟨scope, issue⟩] := by
    rintro ⟨issue, hlonger⟩
    have hlength := congrArg List.length hlonger
    rw [hdiagnostics, List.length_append, List.length_singleton] at hlength
    omega
  refine ⟨⟨nofun, fun h => absurd h hnotLonger⟩, nofun, ⟨fun _ => hdiagnostics, fun _ => ⟨e, rfl⟩⟩,
    ?_, ?_, ?_⟩
  · intro _ _
    cases htypes with
    | inPlace stated _ => exact Or.inr ⟨_, _, stated⟩
    | definition refers => exact Or.inl ⟨_, refers⟩
  · -- an entry typed by a definition is not typed in place, and the definition is the only one
    intro found name hvalue hrefers
    cases hvalue
    cases htypes with
    | inPlace stated _ => exact absurd stated (not_statesType_of_refersTo hrefers)
    | definition refers =>
      have hname : e.type = name := refers.unique hrefers
      refine ⟨hname, hrefers.defines, ?_⟩
      rw [himports, hname]
      rfl
  · intro found type item hvalue hstates
    cases hvalue
    cases htypes with
    | inPlace stated type_eq =>
      obtain ⟨rfl, rfl⟩ := stated.unique hstates
      exact ⟨type_eq, himports⟩
    | definition refers => exact absurd hstates (not_statesType_of_refersTo refers)

/-- Resolving a parameter either skips it with one diagnostic and imports nothing, or gives an entry
without any, and then imports the definition that the entry is typed by, if it is typed by one. This
holds whatever a caller has collected before: nothing is asked of `before`. -/
theorem parameters_resolve_atomically (ctx : Context) (scope : String) (p : Parameter)
    (before : Collected) :
    ResolvesAtomically ctx scope p (resolveParameter ctx scope p).value before
      (before.add (resolveParameter ctx scope p).findings) := by
  have hatomic : (resolveParameter ctx scope p).Atomic scope (ctx.Types p) :=
    resolveParameter_atomic
  rcases hatomic with ⟨issue, hvalue, hmodels, hdiagnostics⟩ | ⟨e, hvalue, hdiagnostics, htypes⟩
  · rw [hvalue]
    refine resolvesAtomically_none ?_ (congrArg _ hdiagnostics)
    rw [Collected.add, hmodels]
    rfl
  · rw [hvalue]
    refine resolvesAtomically_some htypes rfl ?_
    rw [Collected.add, hdiagnostics, List.append_nil]

/-! ## One parameter after the other -/

/-- What two steps find can be added at once or one after the other: names that are mentioned twice
are held once either way. -/
theorem Collected.add_append (before : Collected) (a b : Findings) :
    before.add (a ++ b) = (before.add a).add b := by
  simp only [Collected.add, ImportSet.insertAll, Findings.models_append,
    Findings.diagnostics_append, List.foldl_append, List.append_assoc]

/-- Findings of neither models nor diagnostics add nothing. -/
theorem Collected.add_silent {before : Collected} {findings : Findings}
    (hmodels : findings.models = []) (hdiagnostics : findings.diagnostics = []) :
    before.add findings = before := by
  rw [Collected.add, hmodels, hdiagnostics, List.append_nil]
  rfl

/-- The findings of steps that follow one another are added one after the other. -/
theorem Collected.add_concat {α : Type} (findings : α → Findings) (items : List α)
    (before : Collected) :
    before.add (Findings.concat (items.map findings)) =
      items.foldl (fun held item => held.add (findings item)) before := by
  induction items generalizing before with
  | nil => exact Collected.add_silent rfl rfl
  | cons item rest ih =>
    rw [List.map_cons, Findings.concat_cons, Collected.add_append, ih, List.foldl_cons]

/-- Resolving reports on the parameters of the path and on the operation's own, on each as if it
were alone. Authentication adds entries and reports nothing, and merging reports nothing on what it
replaces. -/
theorem findings_collectParameters (path : List Parameter) (auth : List AuthHeader)
    (own : List Parameter) :
    (collectParameters ctx scope path auth own).findings =
      Findings.concat (path.map fun p => (resolveParameter ctx scope p).findings) ++
        Findings.concat (own.map fun p => (resolveParameter ctx scope p).findings) := by
  rw [collectParameters, Report.findings_bind, Report.findings_bind, Report.findings_keep,
    Report.findings_keep, Report.findings_pure, Findings.append_empty]

/-- What a caller has after the parameters of an operation is what it has after resolving those of
the path and then the operation's own, each atomically. -/
theorem collectParameters_collected (before : Collected) (path : List Parameter)
    (auth : List AuthHeader) (own : List Parameter) :
    before.add (collectParameters ctx scope path auth own).findings =
      (path ++ own).foldl (fun held p => held.add (resolveParameter ctx scope p).findings)
        before := by
  rw [findings_collectParameters, Collected.add_append, Collected.add_concat,
    Collected.add_concat, List.foldl_append]

/-- There is one diagnostic for each parameter that is skipped, and no other. So none is skipped in
silence, and an entry that is merged away is not reported. -/
theorem length_diagnostics_collectParameters (path : List Parameter) (auth : List AuthHeader)
    (own : List Parameter) :
    (collectParameters ctx scope path auth own).findings.diagnostics.length =
      (path ++ own).countP fun p => (resolveParameter ctx scope p).value.isNone := by
  -- resolving is atomic, so a parameter has one diagnostic or none, as it has no entry or one
  have hcount : ∀ parameters : List Parameter,
      (parameters.flatMap fun p => (resolveParameter ctx scope p).findings.diagnostics).length =
        parameters.countP fun p => (resolveParameter ctx scope p).value.isNone := by
    intro parameters
    induction parameters with
    | nil => rfl
    | cons p rest ih =>
      rw [List.flatMap_cons, List.length_append, ih, List.countP_cons, Nat.add_comm]
      have hatomic : (resolveParameter ctx scope p).Atomic scope (ctx.Types p) :=
        resolveParameter_atomic
      rcases hatomic with ⟨issue, hvalue, -, hdiagnostics⟩ | ⟨e, hvalue, hdiagnostics, -⟩
      · rw [hvalue, hdiagnostics]
        rfl
      · rw [hvalue, hdiagnostics]
        rfl
  rw [findings_collectParameters, Findings.diagnostics_append, Findings.diagnostics_concat,
    Findings.diagnostics_concat, List.flatMap_map, List.flatMap_map, ← List.flatMap_append, hcount]

end ServiceContract
