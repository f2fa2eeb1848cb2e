import ServiceContract.Descriptor

/-!
# Building an operation's descriptor

`buildOperation` joins what authentication, parameters and responses resolve to. The models that are
mentioned on the way become the descriptor's imports and go no further.
-/

namespace ServiceContract

/-- The header of requests that send a payload in their body. -/
def contentTypeHeader : String := "Content-Type"

/-- The headers of a request: the content type where a method with a body has something to send,
then authentication, then the header parameters. -/
def requestHeaders (method : HttpMethod) (auth : List AuthHeader)
    (parameters : List ParameterEntry) : NameList :=
  let content :=
    if method.hasBody && parameters.any (·.location.isPayload) then [contentTypeHeader] else []
  let declared := (parameters.filter (·.location == .header)).map ParameterEntry.name
  NameList.ofList (content ++ auth.map AuthHeader.name ++ declared)

/-- The authentication headers of an operation. -/
def Context.authHeaders (ctx : Context) (operation : Operation) : Report (List AuthHeader) :=
  resolveAuthHeaders ctx.document.securitySchemes (ctx.document.applicableRequirements operation)

/-- The descriptor of an operation with an id and a supported method. -/
def describeOperation (ctx : Context) (d : Declaration) (id : String) (method : HttpMethod) :
    Report OperationDescriptor := do
  -- authentication comes first, since its headers are parameters too
  let auth ← ctx.authHeaders d.operation
  let parameters ← collectParameters ctx id d.item.parameters auth d.operation.parameters
  let responses ← resolveResponses ctx id d.operation.responses
  let decoders :=
    if ctx.settings.generateResponseDecoders then
      OperationDecoders.build? ctx.settings id responses (firstSuccess? responses)
    else none
  Report.log .debug
    ("Built " ++ method.name ++ " " ++ d.path ++ " (" ++ id ++ "): "
      ++ toString parameters.length ++ " parameters, " ++ toString responses.length ++ " responses")
  pure
    { operationId := id
      method
      path := d.path
      parameters
      headers := requestHeaders method auth parameters
      responses
      decoders
      imports := ImportSet.empty }

/-- Makes the models mentioned so far the descriptor's imports. -/
def Report.collectImports (r : Report OperationDescriptor) : Report OperationDescriptor :=
  { value := { r.value with imports := ImportSet.ofList r.findings.models }
    findings := { r.findings with models := [] } }

@[simp] theorem Report.diagnostics_collectImports (r : Report OperationDescriptor) :
    r.collectImports.findings.diagnostics = r.findings.diagnostics := rfl

/-- The descriptor of a declared operation. Without an id or with an unsupported method it is
skipped. -/
def buildOperation (ctx : Context) (d : Declaration) : Report (Option OperationDescriptor) :=
  match d.operation.operationId with
  | none => Report.skip (operationLabel d.method d.path) .noOperationId
  | some id =>
    match HttpMethod.ofName? d.method with
    | none => Report.skip id (.unsupportedMethod d.method d.path)
    | some method => some <$> (describeOperation ctx d id method).collectImports

end ServiceContract
