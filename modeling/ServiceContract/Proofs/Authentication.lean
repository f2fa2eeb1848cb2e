import ServiceContract.Proofs.Origins
import ServiceContract.Proofs.Walk

/-!
# What authenticates an operation

An operation that declares requirements carries the header of every API key that they demand and
that travels in a header. A requirement demands the schemes it names only if it fits as a whole: if
each of them comes with a list of texts. One that does not fit is dropped on reading, so a list of
requirements that all do not fit demands as little as an empty one.

Main results:

* `exists_read_requirement`   — the schemes that a requirement demands.
* `mem_authHeaders_of_array`  — the authentication of an operation with requirements of its own.
* `demanded_keys_carried`     — the same for the descriptors of a run.
* `looseScopes_fails_open`    — a run that leaves out a key which a requirement names.
-/

namespace ServiceContract

/-! ## Requirements -/

/-- A list of scopes can be read exactly if all its items are texts. -/
theorem readEach_readText {items : List Json} {scopes : List String} :
    readEach Json.readText items = .ok scopes ↔ items = scopes.map .string := by
  induction items generalizing scopes with
  | nil => cases scopes <;> simp [readEach]
  | cons item rest ih =>
    cases item with
    | string s =>
      constructor
      · intro h
        cases hrest : readEach Json.readText rest with
        | error cause =>
          rw [readEach, hrest] at h
          cases h
        | ok values =>
          rw [readEach, hrest] at h
          cases h
          rw [List.map_cons, ← ih.mp hrest]
      · intro h
        cases scopes with
        | nil => cases h
        | cons scope values =>
          obtain ⟨rfl, hrest⟩ : s = scope ∧ rest = values.map .string := by simpa using h
          rw [readEach, ih.mpr hrest]
          rfl
    -- the first item is no text
    | _ => constructor <;> intro h <;> cases scopes <;> cases h

/-- Scopes can be read from an array of texts and from nothing else. -/
theorem readList_readText {value : Json} {scopes : List String} :
    value.readList Json.readText = .ok scopes ↔ value = Json.texts scopes := by
  cases value with
  | array items => rw [Json.readList, readEach_readText, Json.texts, Json.array.injEq]
  | _ => constructor <;> intro h <;> cases h

/-- Members are read if each of them is a list of texts, and none of their keys is lost. -/
theorem exists_read_members {members : List (String × Json)} {acc : SecurityRequirement}
    {k : String} :
    (∃ requirement, SecurityRequirement.readMembers acc members = .ok requirement ∧
        k ∈ requirement.keys) ↔
      (∀ m ∈ members, ∃ scopes, m.2 = Json.texts scopes) ∧
        (k ∈ acc.keys ∨ k ∈ members.map (·.1)) := by
  induction members generalizing acc with
  | nil => simp [SecurityRequirement.readMembers]
  | cons member rest ih =>
    obtain ⟨name, value⟩ := member
    cases hscopes : value.readList Json.readText with
    | error cause =>
      -- the value is no list of texts, so the requirement does not fit
      constructor
      · rintro ⟨requirement, hread, -⟩
        rw [SecurityRequirement.readMembers, hscopes] at hread
        cases hread
      · rintro ⟨hfits, -⟩
        obtain ⟨scopes, hvalue⟩ := hfits _ (List.mem_cons_self ..)
        rw [readList_readText.mpr hvalue] at hscopes
        cases hscopes
    | ok scopes =>
      have hstep : SecurityRequirement.readMembers acc ((name, value) :: rest) =
          SecurityRequirement.readMembers (acc.insert name scopes) rest := by
        rw [SecurityRequirement.readMembers, hscopes]
        rfl
      have hkeys : k ∈ (acc.insert name scopes).keys ↔ k = name ∨ k ∈ acc.keys :=
        mem_keys_putEntry
      have hvalue : ∃ scopes, value = Json.texts scopes := ⟨scopes, readList_readText.mp hscopes⟩
      rw [hstep, ih, hkeys, List.forall_mem_cons, List.map_cons, List.mem_cons, or_assoc,
        or_left_comm]
      simp only [hvalue, true_and]

/-- The requirements of the list `items` that fit name the scheme `k`. A requirement fits if each of
its members is a list of texts. -/
def Demands (items : List Json) (k : String) : Prop :=
  ∃ members, .object members ∈ items ∧ (∀ m ∈ members, ∃ scopes, m.2 = Json.texts scopes) ∧
    k ∈ members.map (·.1)

/-- A requirement can be read exactly if it is an object in which every scheme has an array of
texts. One scheme that has not makes the whole requirement unreadable. -/
theorem exists_read_requirement {item : Json} {k : String} :
    (∃ requirement, SecurityRequirement.read item = .ok requirement ∧ k ∈ requirement.keys) ↔
      ∃ members, item = .object members ∧ (∀ m ∈ members, ∃ scopes, m.2 = Json.texts scopes) ∧
        k ∈ members.map (·.1) := by
  cases item with
  | object members =>
    have hempty : k ∉ (Keyed.empty : SecurityRequirement).keys := List.not_mem_nil
    rw [SecurityRequirement.read, exists_read_members]
    simp [hempty]
  | _ => simp [SecurityRequirement.read]

/-- What is demanded is what the requirements that are read name. -/
theorem mem_requirementNames_read {items : List Json} {k : String} :
    k ∈ (requirementNames
        (items.filterMap fun item => (SecurityRequirement.read item).toOption)).names ↔
      Demands items k := by
  rw [requirementNames, NameList.ofList, NameList.mem_insertAll]
  constructor
  · rintro (hnone | hnamed)
    · cases hnone
    · obtain ⟨requirement, hmem, hk⟩ := List.mem_flatMap.mp hnamed
      obtain ⟨item, hitem, hread⟩ := List.mem_filterMap.mp hmem
      -- what is left after reading was read without an error
      have hok : SecurityRequirement.read item = .ok requirement := by
        cases h : SecurityRequirement.read item with
        | error cause =>
          rw [h] at hread
          cases hread
        | ok found =>
          rw [h] at hread
          exact congrArg Except.ok (Option.some.inj hread)
      obtain ⟨members, rfl, hfits, hk⟩ := exists_read_requirement.mp ⟨requirement, hok, hk⟩
      exact ⟨members, hitem, hfits, hk⟩
  · rintro ⟨members, hitem, hfits, hk⟩
    obtain ⟨requirement, hread, hk⟩ := exists_read_requirement.mpr ⟨members, rfl, hfits, hk⟩
    refine Or.inr (List.mem_flatMap.mpr ⟨requirement, ?_, hk⟩)
    exact List.mem_filterMap.mpr ⟨_, hitem, congrArg Except.toOption hread⟩

/-! ## Authentication headers -/

/-- Of the schemes only an API key in a header has a header's name. -/
theorem headerName_eq_some {scheme : SecurityScheme} {name : String} :
    scheme.headerName = some name ↔ scheme = .apiKey name .header := by
  unfold SecurityScheme.headerName
  split
  · simp
  · next hother =>
    constructor
    · intro h
      cases h
    · rintro rfl
      exact absurd rfl (hother name)

/-- A scheme that is not declared is passed over. -/
theorem value_findScheme (schemes : Keyed SecurityScheme) (name : String) :
    (findScheme schemes name).value = (schemes.get? name).map (name, ·) := by
  unfold findScheme
  cases schemes.get? name <;> rfl

/-- The header is that of a scheme with a key in a header. -/
theorem authHeader?_eq_some {candidate : String × SecurityScheme} {h : AuthHeader} :
    authHeader? candidate = some h ↔ candidate = (h.scheme, .apiKey h.name .header) := by
  obtain ⟨name, scheme⟩ := candidate
  obtain ⟨header, origin⟩ := h
  simp only [authHeader?, Option.map_eq_some_iff, headerName_eq_some, AuthHeader.mk.injEq,
    Prod.mk.injEq]
  constructor
  · rintro ⟨_, rfl, rfl, rfl⟩
    exact ⟨rfl, rfl⟩
  · rintro ⟨rfl, rfl⟩
    exact ⟨header, rfl, rfl, rfl⟩

/-- Named schemes give their headers in the order of the names. -/
theorem value_resolveAuthHeaders_some (schemes : Keyed SecurityScheme) (names : List String) :
    (resolveAuthHeaders schemes (some names)).value =
      (names.filterMap fun name => (findScheme schemes name).value).filterMap authHeader? := by
  rw [resolveAuthHeaders, Report.value_bind, Report.value_keep, Report.value_pure]

/-- The named schemes that are an API key in a header. -/
theorem mem_resolveAuthHeaders {schemes : Keyed SecurityScheme} {names : List String}
    {h : AuthHeader} :
    h ∈ (resolveAuthHeaders schemes (some names)).value ↔
      h.scheme ∈ names ∧ schemes.get? h.scheme = some (.apiKey h.name .header) := by
  rw [value_resolveAuthHeaders_some, List.mem_filterMap]
  constructor
  · rintro ⟨found, hfound, hheader⟩
    obtain ⟨name, hname, hscheme⟩ := List.mem_filterMap.mp hfound
    rw [value_findScheme] at hscheme
    obtain ⟨scheme, hget, rfl⟩ := Option.map_eq_some_iff.mp hscheme
    obtain ⟨rfl, rfl⟩ := Prod.mk.inj (authHeader?_eq_some.mp hheader)
    exact ⟨hname, hget⟩
  · rintro ⟨hname, hget⟩
    refine ⟨(h.scheme, .apiKey h.name .header), List.mem_filterMap.mpr ⟨h.scheme, hname, ?_⟩, rfl⟩
    rw [value_findScheme, hget, Option.map_some]

/-- An operation with requirements of its own is authenticated by what they demand. -/
theorem mem_authHeaders_of_array {ctx : Context} {method path : String} {value : Json}
    {items : List Json} (hsecurity : value.get? "security" = some (.array items))
    {h : AuthHeader} :
    h ∈ (ctx.authHeaders (Operation.read method path value).value).value ↔
      Demands items h.scheme ∧
        ctx.document.securitySchemes.get? h.scheme = some (.apiKey h.name .header) := by
  -- its own requirements are those that fit, and the document's are not looked at
  have hown : (Operation.read method path value).value.security =
      some (items.filterMap fun item => (SecurityRequirement.read item).toOption) := by
    change (readSequence SecurityRequirement.read .securityRequirement _
      (value.get? "security")).value = _
    rw [hsecurity]
    exact value_readSequence_array ..
  rw [Context.authHeaders, Document.applicableRequirements, hown]
  exact mem_resolveAuthHeaders.trans (and_congr_left' mem_requirementNames_read)

/-! ## Descriptors -/

/-- The headers of a request hold all that authenticate it. -/
theorem mem_requestHeaders_of_auth {method : HttpMethod} {auth : List AuthHeader}
    {parameters : List ParameterEntry} {h : AuthHeader} (hmem : h ∈ auth) :
    h.name ∈ (requestHeaders method auth parameters).names := by
  rw [requestHeaders, NameList.ofList, NameList.mem_insertAll, List.mem_append, List.mem_append]
  exact Or.inr (Or.inl (Or.inr (List.mem_map_of_mem hmem)))

/-- What the requirements `items` of an operation make of its requests. -/
structure Authenticated (schemes : Keyed SecurityScheme) (items : List Json)
    (op : OperationDescriptor) : Prop where
  /-- Apart from what its parameters ask for, a request carries the keys that are demanded, and no
  others. -/
  exactly : ∃ auth, op.headers = requestHeaders op.method auth op.parameters ∧
    ∀ h : AuthHeader, h ∈ auth ↔
      Demands items h.scheme ∧ schemes.get? h.scheme = some (.apiKey h.name .header)
  carried : ∀ k name, Demands items k → schemes.get? k = some (.apiKey name .header) →
    name ∈ op.headers.names

/-- Every descriptor of a run is built from a value of the raw document, and authenticated by the
requirements that stand there. `Authenticated` speaks of the requirements that can be read: where
the array of the document has others, they are dropped, and with all of them dropped the operation
carries no key at all. -/
theorem demanded_keys_carried {raw : Json} {settings : Settings} {mapper : TypeMapper}
    {r : Report Generation}
    (run : generate ⟨(Document.read raw).value, settings, mapper⟩ = .ok r) :
    ∀ op ∈ r.value.operations, ∃ value, raw.HoldsOperation op.path op.method.name value ∧
      (∃ d ∈ (Document.read raw).value.declarations,
        d.operation = (Operation.read op.method.name op.path value).value ∧
        (buildOperation ⟨(Document.read raw).value, settings, mapper⟩ d).value = some op) ∧
      ∀ items, value.get? "security" = some (.array items) →
        Authenticated (Document.read raw).value.securitySchemes items op := by
  obtain ⟨-, rfl⟩ := generate_eq_ok.mp run
  intro op hop
  obtain ⟨d, hd, hbuilt⟩ := exists_declaration_of_mem hop
  obtain ⟨value, hheld, hread⟩ := exists_origin_of_mem_declarations hd
  -- the descriptor names the place that its operation was read from
  have hdescribes := describes_of_build hbuilt
  rw [← hdescribes.method, ← hdescribes.path] at hheld hread
  refine ⟨value, hheld, ⟨d, hd, hread, hbuilt⟩, fun items hsecurity => ?_⟩
  have hheaders := hdescribes.headers
  rw [hread] at hheaders
  refine ⟨⟨_, hheaders, fun h => mem_authHeaders_of_array hsecurity⟩, fun k name hk hscheme => ?_⟩
  have hauth : ⟨name, k⟩ ∈ (Context.authHeaders ⟨(Document.read raw).value, settings, mapper⟩
      (Operation.read op.method.name op.path value).value).value :=
    (mem_authHeaders_of_array hsecurity).mpr ⟨hk, hscheme⟩
  rw [hheaders]
  exact mem_requestHeaders_of_auth hauth

/-- A document with a key that travels in a header and an operation with the requirements given. -/
def keyed (requirements : List Json) : Json := .object [
  ("swagger", .string "2.0"),
  ("securityDefinitions", .object [("ApiKeyAuth", .object [
    ("type", .string "apiKey"), ("in", .string "header"), ("name", .string "X-Key")])]),
  ("paths", .object [("/orders", .object [("get", .object [
    ("operationId", .string "list"), ("security", .array requirements)])])])]

/-- A requirement that names the key, and beside it a scheme whose scopes are no list. -/
def looseScopes : Json := .object [("ApiKeyAuth", .array []), ("Legacy", .string "all")]

/-- The key is named by that requirement and by one that fits. -/
def namedTwice : Json := keyed [looseScopes, .object [("ApiKeyAuth", .array [])]]

/-- A run whose operation names one scheme in two requirements carries its header once. -/
theorem namedTwice_carried :
    ∃ r, generate ⟨(Document.read namedTwice).value, {}, TypeMapper.standard⟩ = .ok r ∧
      ∀ op ∈ r.value.operations, ∃ value,
        namedTwice.HoldsOperation op.path op.method.name value ∧
        ∀ items, value.get? "security" = some (.array items) →
          Authenticated (Document.read namedTwice).value.securitySchemes items op := by
  have hrun : generate ⟨(Document.read namedTwice).value, {}, TypeMapper.standard⟩ = .ok _ := rfl
  refine ⟨_, hrun, fun op hop => ?_⟩
  obtain ⟨value, hheld, -, hauthenticated⟩ := demanded_keys_carried hrun op hop
  exact ⟨value, hheld, hauthenticated⟩

example : (generateOperations ⟨(Document.read namedTwice).value, {}, TypeMapper.standard⟩).value.map
    (·.headers.names) = [["X-Key"]] := by decide +kernel

/-- With the loose requirement alone the operation carries no key at all. -/
theorem looseScopes_fails_open :
    ∃ r, generate ⟨(Document.read (keyed [looseScopes])).value, {}, TypeMapper.standard⟩ = .ok r ∧
      (Document.read (keyed [looseScopes])).value.securitySchemes.get? "ApiKeyAuth" =
        some (.apiKey "X-Key" .header) ∧
      r.value.operations.map (fun op => (op.operationId, op.headers.names)) = [("list", [])] := by
  refine ⟨_, rfl, ?_, ?_⟩
  · decide +kernel
  · decide +kernel

end ServiceContract
