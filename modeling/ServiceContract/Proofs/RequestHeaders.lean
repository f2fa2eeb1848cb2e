import ServiceContract.Proofs.HeaderKeys
import ServiceContract.Proofs.Merging

/-!
# The headers of a request

A descriptor lists the headers that a request carries: the content type, if a method with a body has
something to send, then the headers that authenticate it, then those that its parameters stand for.
Each is listed where it comes first. The parameters that count are the merged ones; authentication
is taken as it was resolved, before the merge. So a header of authentication is listed whatever the
parameters are, while its entry among them may have been replaced: a parameter of the operation that
has its name takes its place, also with another location. Such a header is carried without an entry
to supply it, and it is the only one.

Main results:

* `names_requestHeaders`              — the headers as a list without its repetitions.
* `headers_listed_in_order`           — which headers a descriptor lists, and how they are written.
* `supplied_iff_not_displaced`        — which headers of authentication have an entry.
* `headers_supplied_unless_displaced` — for all runs: which listed headers have an entry.
* `displacedKey_unsupplied`           — a run with a key that no entry supplies.
-/

namespace ServiceContract

/-! ## The headers in order -/

/-- Requests with a body are those that post and put. -/
theorem HttpMethod.hasBody_iff {method : HttpMethod} :
    method.hasBody = true ↔ method = .post ∨ method = .put := by
  cases method <;> simp [HttpMethod.hasBody]

/-- A payload is sent in the query, in a form or as the body. -/
theorem ParameterLocation.isPayload_iff {location : ParameterLocation} :
    location.isPayload = true ↔ location = .query ∨ location = .formData ∨ location = .body := by
  cases location <;> simp [ParameterLocation.isPayload]

/-- A post or put operation with a parameter in the query, in a form or in the body. -/
def OperationDescriptor.SendsPayload (op : OperationDescriptor) : Prop :=
  (op.method = .post ∨ op.method = .put) ∧
    ∃ e ∈ op.parameters, e.location = .query ∨ e.location = .formData ∨ e.location = .body

instance (op : OperationDescriptor) : Decidable op.SendsPayload :=
  inferInstanceAs (Decidable (_ ∧ ∃ e ∈ op.parameters, _))

/-- The names of the parameters that are located in a header, in their order. -/
def OperationDescriptor.headerParameters (op : OperationDescriptor) : List String :=
  (op.parameters.filter fun e => e.location = .header).map ParameterEntry.name

theorem mem_headerParameters {op : OperationDescriptor} {n : String} :
    n ∈ op.headerParameters ↔ ∃ e ∈ op.parameters, e.name = n ∧ e.location = .header := by
  simp only [OperationDescriptor.headerParameters, List.mem_map, List.mem_filter,
    decide_eq_true_eq]
  constructor
  · rintro ⟨e, ⟨hmem, hlocation⟩, rfl⟩
    exact ⟨e, hmem, rfl, hlocation⟩
  · rintro ⟨e, hmem, rfl, hlocation⟩
    exact ⟨e, ⟨hmem, hlocation⟩, rfl⟩

/-- Headers are listed in this order: the content type, then authentication, then header parameters.
A name that comes again is not listed again, and keeps the place where it came first. -/
theorem names_requestHeaders (op : OperationDescriptor) (auth : List AuthHeader) :
    (requestHeaders op.method auth op.parameters).names =
      ((if op.SendsPayload then ["Content-Type"] else []) ++ auth.map AuthHeader.name ++
        op.headerParameters).eraseDups := by
  have hpayload : (op.method.hasBody && op.parameters.any (·.location.isPayload)) = true ↔
      op.SendsPayload := by
    rw [Bool.and_eq_true, HttpMethod.hasBody_iff, List.any_eq_true]
    simp only [ParameterLocation.isPayload_iff, OperationDescriptor.SendsPayload]
  have hdeclared : op.parameters.filter (·.location == .header) =
      op.parameters.filter fun e => e.location = .header := rfl
  rw [requestHeaders, NameList.names_ofList, OperationDescriptor.headerParameters, hdeclared]
  simp only [hpayload, contentTypeHeader]

/-- A header is listed as the content type, for authentication or for a parameter. -/
theorem mem_requestHeaders {op : OperationDescriptor} {auth : List AuthHeader} {n : String} :
    n ∈ (requestHeaders op.method auth op.parameters).names ↔
      (op.SendsPayload ∧ n = "Content-Type") ∨ n ∈ auth.map AuthHeader.name ∨
        ∃ e ∈ op.parameters, e.name = n ∧ e.location = .header := by
  rw [names_requestHeaders, List.mem_eraseDups, List.mem_append, List.mem_append,
    mem_headerParameters, or_assoc]
  refine or_congr_left ?_
  split
  · next h => simp [h]
  · next h => simp [h]

/-! ## Headers in writing -/

/-- The name between quotes. -/
def quoted (name : String) : String := "\"" ++ name ++ "\""

theorem intercalate_eq_join (separator first : String) (rest : List String) :
    separator.intercalate (first :: rest) =
      first ++ String.join (rest.map fun part => separator ++ part) := by
  induction rest generalizing first with
  | nil => simp
  | cons part rest ih =>
    rw [String.intercalate_cons_cons, ih, List.map_cons, String.join_cons, String.append_assoc,
      String.append_assoc]

/-- The headers as a union: the names in quotes, with bars between them. -/
theorem unionText_of_cons {headers : NameList} {first : String} {rest : List String}
    (h : headers.names = first :: rest) :
    headers.unionText =
      quoted first ++ String.join (rest.map fun name => " | " ++ quoted name) := by
  have hsome : headers.isEmpty = false := by rw [NameList.isEmpty, h, List.isEmpty_cons]
  rw [NameList.unionText, hsome, h, List.map_cons, intercalate_eq_join, List.map_map]
  rfl

/-- Only where there is no header the text is the one for none: any other starts with a quote. -/
theorem unionText_eq_never_iff {headers : NameList} :
    headers.unionText = "never" ↔ headers.names = [] := by
  cases h : headers.names with
  | nil => simp [NameList.unionText, NameList.isEmpty, h]
  | cons first rest =>
    rw [unionText_of_cons h]
    constructor
    · intro hnever
      have hchar := congrArg (fun text : String => text.toList.head?) hnever
      simp [quoted] at hchar
    · intro hnil
      cases hnil

/-! ## What is built -/

/-- How the headers of a descriptor are listed and written. -/
structure ListsHeaders (ctx : Context) (d : Declaration) (op : OperationDescriptor) : Prop where
  /-- The headers are the content type, if a payload is sent, those of authentication, and those of
  the parameters, without what comes again. -/
  exactly : op.headers.names =
    ((if op.SendsPayload then ["Content-Type"] else []) ++
      (ctx.authHeaders d.operation).value.map AuthHeader.name ++ op.headerParameters).eraseDups
  /-- Authentication stands in the order of the requirements. -/
  required : HeadersOf ctx.document.securitySchemes (ctx.document.namedSchemes d.operation)
    (ctx.authHeaders d.operation).value
  /-- The parameters are the merged ones. -/
  merged : Merges (ctx.entriesOf d op.operationId) op.parameters
  nodup : op.headers.names.Nodup
  contentFirst : op.SendsPayload → op.headers.names.head? = some "Content-Type"
  authenticated : ∀ h ∈ (ctx.authHeaders d.operation).value, h.name ∈ op.headers.names
  never : op.headersType = "never" ↔ op.headers.names = []
  union : ∀ first rest, op.headers.names = first :: rest →
    op.headersType = quoted first ++ String.join (rest.map fun name => " | " ++ quoted name)

/-- The headers of what is built are listed and written in this way. Only parameters that are left
by the merge count, and these by the place they lie in. -/
theorem headers_listed_in_order {ctx : Context} {d : Declaration} {op : OperationDescriptor}
    (built : (buildOperation ctx d).value = some op) : ListsHeaders ctx d op := by
  have hop := describes_of_build built
  have hexactly := congrArg NameList.names hop.headers
  rw [names_requestHeaders] at hexactly
  refine ⟨hexactly, headersOf_namedSchemes ctx.document d.operation, ?_, op.headers.nodup, ?_, ?_,
    unionText_eq_never_iff, fun _ _ => unionText_of_cons⟩
  · rw [hop.merged]
    exact merges_mergeEntries _
  · -- the content type comes first in what is listed, so no repetition of it is dropped in front
    intro hpayload
    rw [hexactly, if_pos hpayload, List.append_assoc, List.singleton_append, List.eraseDups_cons,
      List.head?_cons]
  · intro h hmem
    rw [hop.headers]
    exact mem_requestHeaders_of_auth hmem

/-- A document with a key in a header, and an operation that declares this header once more beside
the content type. -/
def declaredTwice : Context where
  document :=
    { securitySchemes := Keyed.ofList
        [("Session", .apiKey "X-Session" .header), ("ApiKeyAuth", .apiKey "X-Key" .header),
         ("Legacy", .apiKey "key" .query)]
      paths := Keyed.ofList [("/orders", {
        parameters := [{ name := some "X-Trace", location := some .header, type := some "string" }]
        operations := Keyed.ofList [
          ("put", {
            operationId := some "replace"
            security := some [Keyed.ofList [("Legacy", []), ("ApiKeyAuth", [])],
                              Keyed.ofList [("Session", [])]]
            parameters := [
              { name := some "Content-Type", location := some .header, type := some "string" },
              { name := some "X-Key", location := some .header, type := some "string" },
              { name := some "limit", location := some .query, type := some "integer" }] })] })] }
  settings := {}
  mapper := TypeMapper.standard

/-- An operation that declares the content type and a header of authentication once more. -/
theorem declaredTwice_listed :
    ∃ d ∈ declaredTwice.document.declarations, ∃ op,
      (buildOperation declaredTwice d).value = some op ∧ ListsHeaders declaredTwice d op :=
  ⟨_, List.mem_cons_self .., _, rfl, headers_listed_in_order rfl⟩

example : (generateOperations declaredTwice).value.map (fun op => (op.headers.names, op.headersType)) =
    [(["Content-Type", "X-Key", "X-Session", "X-Trace"],
      "\"Content-Type\" | \"X-Key\" | \"X-Session\" | \"X-Trace\"")] := by
  decide +kernel

/-! ## Entries for the headers -/

/-- An entry in the header has the name. -/
def OperationDescriptor.Supplies (op : OperationDescriptor) (n : String) : Prop :=
  ∃ e ∈ op.parameters, e.name = n ∧ e.location = .header

/-- The name is that of a header of authentication, and the operation's own parameters give it to an
entry with another location. -/
def Displaced (ctx : Context) (d : Declaration) (op : OperationDescriptor) (n : String) : Prop :=
  n ∈ (ctx.authHeaders d.operation).value.map AuthHeader.name ∧
    ∃ e : ParameterEntry, e.LastIn (ctx.entriesFrom op.operationId d.operation.parameters) ∧
      e.name = n ∧ e.location ≠ .header

variable {ctx : Context} {d : Declaration} {op : OperationDescriptor}

/-- Which scope an entry of a descriptor comes from. -/
theorem Describes.mem_parameters (hop : Describes ctx d op) {e : ParameterEntry} :
    e ∈ op.parameters ↔
      e.LastIn (ctx.entriesFrom op.operationId d.operation.parameters) ∨
      e.name ∉ (ctx.entriesFrom op.operationId d.operation.parameters).map ParameterEntry.name ∧
        (e.LastIn ((ctx.authHeaders d.operation).value.map AuthHeader.entry) ∨
          e.name ∉ ((ctx.authHeaders d.operation).value.map AuthHeader.entry).map
            ParameterEntry.name ∧
          e.LastIn (ctx.entriesFrom op.operationId d.item.parameters)) := by
  rw [hop.merged, mem_mergeEntries, Context.entriesOf, lastIn_append, lastIn_append]
  rfl

/-- Entries of a descriptor with one name are one entry. -/
theorem Describes.eq_of_name_eq (hop : Describes ctx d op) {e other : ParameterEntry}
    (h : e ∈ op.parameters) (hother : other ∈ op.parameters) (hname : other.name = e.name) :
    other = e := by
  rw [hop.merged, mem_mergeEntries] at h hother
  exact h.eq hother hname

/-- Of the entries with a name one is the last. -/
theorem exists_lastIn {entries : List ParameterEntry} {n : String}
    (h : n ∈ entries.map ParameterEntry.name) :
    ∃ e : ParameterEntry, e.LastIn entries ∧ e.name = n := by
  obtain ⟨e, he, rfl⟩ := List.mem_map.mp h
  obtain ⟨winner, hwinner, hname⟩ := exists_mem_mergeEntries he
  exact ⟨winner, mem_mergeEntries.mp hwinner, hname⟩

/-- An entry in the header stands for a header of authentication, unless the header is displaced. -/
theorem supplied_iff_not_displaced (hop : Describes ctx d op) {n : String}
    (hauth : n ∈ (ctx.authHeaders d.operation).value.map AuthHeader.name) :
    op.Supplies n ↔ ¬ Displaced ctx d op n := by
  constructor
  · rintro ⟨e, he, hname, hheader⟩ ⟨-, other, hlast, hother, helsewhere⟩
    -- the entry that displaces the header has its name, so it is the one in the header
    have hmem : other ∈ op.parameters := hop.mem_parameters.mpr (Or.inl hlast)
    have hsame : other = e := hop.eq_of_name_eq he hmem (hother.trans hname.symm)
    exact helsewhere (hsame ▸ hheader)
  · intro hkept
    by_cases hown :
        n ∈ (ctx.entriesFrom op.operationId d.operation.parameters).map ParameterEntry.name
    · obtain ⟨e, hlast, hname⟩ := exists_lastIn hown
      have hheader : e.location = .header := by
        apply Classical.byContradiction
        intro helsewhere
        exact hkept ⟨hauth, e, hlast, hname, helsewhere⟩
      exact ⟨e, hop.mem_parameters.mpr (Or.inl hlast), hname, hheader⟩
    · -- without an entry of the operation's own, that of authentication is left
      have hnames : ((ctx.authHeaders d.operation).value.map AuthHeader.entry).map
          ParameterEntry.name = (ctx.authHeaders d.operation).value.map AuthHeader.name := by
        rw [List.map_map]
        rfl
      rw [← hnames] at hauth
      obtain ⟨e, hlast, rfl⟩ := exists_lastIn hauth
      obtain ⟨header, -, hentry⟩ := List.mem_map.mp hlast.mem
      refine ⟨e, hop.mem_parameters.mpr (Or.inr ⟨hown, Or.inl hlast⟩), rfl, ?_⟩
      rw [← hentry]
      rfl

/-- Which headers of a descriptor have an entry among its parameters. -/
structure SuppliesHeaders (ctx : Context) (d : Declaration) (op : OperationDescriptor) : Prop where
  supplied : ∀ n ∈ op.headers.names, ¬ (op.SendsPayload ∧ n = "Content-Type") →
    (op.Supplies n ↔ ¬ Displaced ctx d op n)
  listed : ∀ e ∈ op.parameters, e.location = .header → e.name ∈ op.headers.names
  /-- A displaced header is listed all the same, and an entry elsewhere has its name. -/
  displaced : ∀ n, Displaced ctx d op n → n ∈ op.headers.names ∧
    ∃ e ∈ op.parameters, e.name = n ∧ e.location ≠ .header

/-- What is said of headers and entries holds of all that is built, whether the walk keeps it or
not. -/
theorem suppliesHeaders_of_build (built : (buildOperation ctx d).value = some op) :
    SuppliesHeaders ctx d op := by
  have hop := describes_of_build built
  refine ⟨?_, ?_, ?_⟩
  · intro n hn hother
    rw [hop.headers, mem_requestHeaders] at hn
    -- a header is implied, demanded or declared, and only a demanded one can be displaced
    rcases hn with himplied | hauth | hsupplied
    · exact absurd himplied hother
    · exact supplied_iff_not_displaced hop hauth
    · refine ⟨?_, fun _ => hsupplied⟩
      rintro _ hdisplaced
      exact (supplied_iff_not_displaced hop hdisplaced.1).mp hsupplied hdisplaced
  · intro e he hheader
    rw [hop.headers, mem_requestHeaders]
    exact Or.inr (Or.inr ⟨e, he, rfl, hheader⟩)
  · rintro n ⟨hauth, e, hlast, hname, helsewhere⟩
    rw [hop.headers, mem_requestHeaders]
    exact ⟨Or.inr (Or.inl hauth), e, hop.mem_parameters.mpr (Or.inl hlast), hname, helsewhere⟩

/-- In every run, a listed header apart from the implied content type has an entry in the header,
unless it is one of authentication that the operation's own parameters displace; and every entry in
the header is listed. A displaced header is listed since the list takes authentication from what is
resolved, before the merge, and not from what is left after it. -/
theorem headers_supplied_unless_displaced (ctx : Context) (r : Report Generation)
    (run : generate ctx = .ok r) (op : OperationDescriptor) (member : op ∈ r.value.operations) :
    ∃ d ∈ ctx.document.declarations,
      (buildOperation ctx d).value = some op ∧ SuppliesHeaders ctx d op := by
  obtain ⟨-, rfl⟩ := generate_eq_ok.mp run
  obtain ⟨d, hd, hvalue⟩ := exists_declaration_of_mem member
  exact ⟨d, hd, hvalue, suppliesHeaders_of_build hvalue⟩

/-- A document with two keys in headers, and an operation with a parameter in the query that has the
name of one of these headers. -/
def displacedKey : Context where
  document :=
    { swagger := some "2.0"
      securitySchemes := Keyed.ofList
        [("ApiKeyAuth", .apiKey "X-Key" .header), ("Session", .apiKey "X-Session" .header)]
      paths := Keyed.ofList [("/orders", { operations := Keyed.ofList [
        ("get", {
          operationId := some "list"
          parameters := [{ name := some "X-Key", location := some .query,
                           type := some "string" }] })] })] }
  settings := {}
  mapper := TypeMapper.standard

/-- A run whose operation displaces one of two keys in the header. -/
theorem displacedKey_supplies_others :
    ∃ r op, generate displacedKey = .ok r ∧ op ∈ r.value.operations ∧
      ∃ d ∈ displacedKey.document.declarations,
        (buildOperation displacedKey d).value = some op ∧ SuppliesHeaders displacedKey d op :=
  ⟨_, _, rfl, List.mem_cons_self ..,
    headers_supplied_unless_displaced displacedKey _ rfl _ (List.mem_cons_self ..)⟩

/-- The operation sends no payload and lists the key, and no entry in the header has its name. -/
theorem displacedKey_unsupplied :
    ∃ r op, generate displacedKey = .ok r ∧ op ∈ r.value.operations ∧
      ¬ op.SendsPayload ∧ "X-Key" ∈ op.headers.names ∧
      ¬ ∃ e ∈ op.parameters, e.name = "X-Key" ∧ e.location = .header := by
  refine ⟨_, _, rfl, List.mem_cons_self .., ?_, ?_, ?_⟩
  · decide +kernel
  · decide +kernel
  · decide +kernel

end ServiceContract
