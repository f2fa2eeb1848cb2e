import Mathlib.Data.List.Sort
import ServiceContract.Proofs.Authentication
import ServiceContract.Proofs.Tables

/-!
# Which keys go into headers

An operation is authenticated by security schemes, and they are found by name. Its own requirements
name them if it declares any; if not, those of the document do; and where neither declares
requirements, all schemes of the document count as named. An empty list of requirements is a
declaration too, and names nothing.

Each name gives one header, at its first occurrence, if it is a scheme with a key in a header, and
none otherwise. `HeadersOf` says this of a list of headers: which are in it, that no scheme comes
twice, and in which order they stand. Only one list is like that.

Main results:

* `HeadersOf.unique`             — the names leave but one list of headers.
* `headersOf_namedSchemes`       — an operation's authentication is that of the names that apply.
* `authenticated_by_header_keys` — the same for each of the three sources of names.
-/

namespace ServiceContract

/-- The headers are those of the keys among `names`, in the order in which these come first. -/
structure HeadersOf (schemes : Keyed SecurityScheme) (names : List String)
    (auth : List AuthHeader) : Prop where
  /-- A header is there for each name that is a scheme with a key in this header. -/
  exactly : ∀ h : AuthHeader, h ∈ auth ↔
    h.scheme ∈ names ∧ schemes.get? h.scheme = some (.apiKey h.name .header)
  once : (auth.map AuthHeader.scheme).Nodup
  ordered : auth.Pairwise fun a b => names.idxOf a.scheme < names.idxOf b.scheme

variable {schemes : Keyed SecurityScheme} {names : List String} {auth : List AuthHeader}

/-- The names leave but one list of headers. -/
theorem HeadersOf.unique {other : List AuthHeader} (h : HeadersOf schemes names auth)
    (hother : HeadersOf schemes names other) : other = auth := by
  -- both lists ascend in the places of their schemes' names
  refine hother.ordered.eq_of_mem_iff h.ordered fun header => ?_
  rw [h.exactly, hother.exactly]

/-- Headers that follow a list of the names have its order, and repeat as little as it does. -/
theorem headersOf_of_sublist {l : NameList} (hl : l.Lists names)
    (hsub : (auth.map AuthHeader.scheme).Sublist l.names)
    (hexact : ∀ h : AuthHeader, h ∈ auth ↔
      h.scheme ∈ names ∧ schemes.get? h.scheme = some (.apiKey h.name .header)) :
    HeadersOf schemes names auth where
  exactly := hexact
  once := hsub.nodup l.nodup
  ordered := by
    have hordered := hl.ordered.sublist hsub
    rwa [List.pairwise_map] at hordered

/-! ## Resolving names -/

/-- A header keeps the name of the scheme it comes from. -/
theorem sublist_map_scheme (candidates : List (String × SecurityScheme)) :
    ((candidates.filterMap authHeader?).map AuthHeader.scheme).Sublist
      (candidates.map Prod.fst) := by
  refine map_filterMap_sublist fun candidate _ h hheader => ?_
  rw [authHeader?_eq_some.mp hheader]

/-- The headers of requirements are those of the keys that they name. -/
theorem headersOf_requirements (schemes : Keyed SecurityScheme)
    (requirements : List SecurityRequirement) :
    HeadersOf schemes (requirements.flatMap Keyed.keys)
      (resolveAuthHeaders schemes (some (requirementNames requirements).names)).value := by
  have hl : (requirementNames requirements).Lists (requirements.flatMap Keyed.keys) :=
    NameList.lists_ofList _
  refine headersOf_of_sublist hl ?_ fun h => mem_resolveAuthHeaders.trans (and_congr_left' (hl.mem _))
  -- names without a scheme are dropped first, then schemes without a key in a header
  rw [value_resolveAuthHeaders_some]
  refine (sublist_map_scheme _).trans ?_
  have hfound : (((requirementNames requirements).names.filterMap fun name =>
      (findScheme schemes name).value).map Prod.fst).Sublist
        ((requirementNames requirements).names.map id) := by
    refine map_filterMap_sublist fun name _ found hname => ?_
    rw [value_findScheme] at hname
    obtain ⟨scheme, -, rfl⟩ := Option.map_eq_some_iff.mp hname
    rfl
  rwa [List.map_id] at hfound

/-- Where nothing is named, the headers are those of all keys. -/
theorem headersOf_all (schemes : Keyed SecurityScheme) :
    HeadersOf schemes schemes.keys (resolveAuthHeaders schemes none).value := by
  have hvalue : (resolveAuthHeaders schemes none).value = schemes.entries.filterMap authHeader? :=
    rfl
  rw [hvalue]
  -- the schemes are gone through as they are declared, and those that are no header key drop out
  refine headersOf_of_sublist (NameList.lists_self ⟨schemes.keys, schemes.keys_nodup⟩)
    (sublist_map_scheme _) fun h => ?_
  rw [List.mem_filterMap]
  constructor
  · rintro ⟨candidate, hmem, hheader⟩
    rw [authHeader?_eq_some.mp hheader] at hmem
    exact ⟨List.mem_map_of_mem hmem, Keyed.mem_entries_iff.mp hmem⟩
  · rintro ⟨-, hget⟩
    exact ⟨_, Keyed.mem_entries_iff.mpr hget, authHeader?_eq_some.mpr rfl⟩

/-! ## The names that apply -/

/-- The scheme names that apply to an operation, as often as they are named. -/
def Document.namedSchemes (d : Document) (operation : Operation) : List String :=
  match operation.security, d.security with
  | some own, _ => own.flatMap Keyed.keys
  | none, some shared => shared.flatMap Keyed.keys
  | none, none => d.securitySchemes.keys

/-- An operation's authentication is that of the names that apply to it. -/
theorem headersOf_namedSchemes (document : Document) (operation : Operation) :
    HeadersOf document.securitySchemes (document.namedSchemes operation)
      (resolveAuthHeaders document.securitySchemes
        (document.applicableRequirements operation)).value := by
  unfold Document.namedSchemes Document.applicableRequirements
  cases operation.security with
  | some own => exact headersOf_requirements _ own
  | none =>
    cases document.security with
    | some shared => exact headersOf_requirements _ shared
    | none => exact headersOf_all _

/-- Where the headers that authenticate an operation come from. -/
structure HeaderKeys (document : Document) (operation : Operation) (auth : List AuthHeader) :
    Prop where
  own : ∀ requirements, operation.security = some requirements →
    HeadersOf document.securitySchemes (requirements.flatMap Keyed.keys) auth
  inherited : operation.security = none → ∀ requirements, document.security = some requirements →
    HeadersOf document.securitySchemes (requirements.flatMap Keyed.keys) auth
  undeclared : operation.security = none → document.security = none →
    HeadersOf document.securitySchemes document.securitySchemes.keys auth
  defined : ∀ h ∈ auth, document.securitySchemes.get? h.scheme = some (.apiKey h.name .header)
  once : (auth.map AuthHeader.scheme).Nodup
  /-- An empty list of requirements opts out, whatever the document declares. -/
  optOut : operation.security = some [] → auth = []

/-- The headers that authenticate an operation are those of the keys that apply to it: of those its
own requirements name, else of those the document's name, else of all. -/
theorem authenticated_by_header_keys (document : Document) (operation : Operation) :
    HeaderKeys document operation (resolveAuthHeaders document.securitySchemes
      (document.applicableRequirements operation)).value := by
  have hnamed := headersOf_namedSchemes document operation
  have hown : ∀ requirements, operation.security = some requirements →
      document.namedSchemes operation = requirements.flatMap Keyed.keys := by
    intro requirements hsecurity
    rw [Document.namedSchemes, hsecurity]
  refine ⟨?_, ?_, ?_, fun h hmem => ((hnamed.exactly h).mp hmem).2, hnamed.once, ?_⟩
  · intro requirements hsecurity
    rw [← hown requirements hsecurity]
    exact hnamed
  · intro hnone requirements hsecurity
    simpa only [Document.namedSchemes, hnone, hsecurity] using hnamed
  · intro hnone hsecurity
    simpa only [Document.namedSchemes, hnone, hsecurity] using hnamed
  · intro hempty
    rw [hown [] hempty] at hnamed
    -- nothing is named, so no header is that of a name
    refine List.eq_nil_iff_forall_not_mem.mpr fun h hmem => ?_
    exact List.not_mem_nil ((hnamed.exactly h).mp hmem).1

end ServiceContract
