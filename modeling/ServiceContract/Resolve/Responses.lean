import ServiceContract.Resolve.Context

/-!
# Responses

Each declared status gets a type: the definition its schema refers to, or a default that depends on
whether the status means success.
-/

namespace ServiceContract

/-- Whether a status means success: three bytes of UTF-8, the first of them the digit two. -/
def isSuccessStatus (status : String) : Bool :=
  status.utf8ByteSize == 3 && ['2'].isPrefixOf status.toList

/-- The length counts bytes and the digit is a character, so a status of two characters may mean
success. -/
theorem isSuccessStatus_iff {status : String} :
    isSuccessStatus status = true ↔ status.utf8ByteSize = 3 ∧ status.toList.head? = some '2' := by
  unfold isSuccessStatus
  rw [Bool.and_eq_true, beq_iff_eq]
  refine and_congr_right fun _ => ?_
  cases status.toList with
  | nil => simp
  | cons c rest =>
    rw [List.isPrefixOf_cons_cons, List.isPrefixOf_nil_left, Bool.and_true, beq_iff_eq,
      List.head?_cons, Option.some.injEq, eq_comm]

/-- A declared status and its type. -/
structure ResponseEntry where
  status : String
  type : String
  deriving DecidableEq, Repr, Inhabited

/-- Whether the entry's status means success. -/
def ResponseEntry.isSuccess (entry : ResponseEntry) : Bool := isSuccessStatus entry.status

/-- The type of a response that documents none. -/
def Settings.defaultType (s : Settings) (status : String) : String :=
  if isSuccessStatus status then s.defaultSuccessType else s.defaultErrorType

/-- The definition that a response's schema refers to. A reference to anything else is reported. -/
def resolveModel (ctx : Context) (scope status : String) (response : Response) :
    Report (Option String) :=
  match response.schema.bind Schema.reference with
  | none => pure none
  | some pointer =>
    match Reference.ofPointer? pointer with
    | some ⟨.definition, name⟩ =>
      if ctx.document.defines name then pure (some name)
      else Report.skip scope (.unknownResponseDefinition status name)
    | _ => Report.skip scope (.unusableResponseReference status pointer)

/-- The entry of one declared response. -/
def resolveResponse (ctx : Context) (scope : String) (declared : String × Response) :
    Report ResponseEntry := do
  match ← resolveModel ctx scope declared.1 declared.2 with
  | some name =>
    Report.mention name
    pure ⟨declared.1, name⟩
  | none => pure ⟨declared.1, ctx.settings.defaultType declared.1⟩

/-- An entry has the status it is declared for, whether its schema refers to a definition or not. -/
@[simp] theorem status_resolveResponse (ctx : Context) (scope : String)
    (declared : String × Response) :
    (resolveResponse ctx scope declared).value.status = declared.1 := by
  rw [resolveResponse, Report.value_bind]
  split <;> rfl

/-- The entries of all declared responses, in their order. -/
def resolveResponses (ctx : Context) (scope : String) (responses : Keyed Response) :
    Report (List ResponseEntry) :=
  Report.each (resolveResponse ctx scope) responses.entries

/-- Each declared status has one entry, in the order of declaration. -/
theorem map_status_resolveResponses (ctx : Context) (scope : String) (responses : Keyed Response) :
    (resolveResponses ctx scope responses).value.map ResponseEntry.status = responses.keys := by
  rw [resolveResponses, Report.value_each, List.map_map]
  exact List.map_congr_left fun declared _ => status_resolveResponse ctx scope declared

/-- The first entry whose status means success. -/
def firstSuccess? (entries : List ResponseEntry) : Option ResponseEntry :=
  entries.find? ResponseEntry.isSuccess

end ServiceContract
