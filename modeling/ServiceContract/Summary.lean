import ServiceContract.Descriptor

/-!
# Summaries

A run can be shown instead of written: a line for each operation, one for the imports if there are
any, and one for each diagnostic.
-/

namespace ServiceContract

/-- A parameter in a summary; a question mark follows the name of an optional one. -/
def ParameterEntry.summary (e : ParameterEntry) : String :=
  e.name ++ (if e.required then "" else "?") ++ ": " ++ e.type

/-- A response in a summary. -/
def ResponseEntry.summary (e : ResponseEntry) : String := e.status ++ "=" ++ e.type

/-- An operation in a summary, without the line's end. -/
def OperationDescriptor.summary (d : OperationDescriptor) : String :=
  d.method.title ++ " " ++ d.path ++ " " ++ d.operationId ++ " ("
    ++ ", ".intercalate (d.parameters.map ParameterEntry.summary)
    ++ ") headers: " ++ d.headersType
    ++ " responses: " ++ " ".intercalate (d.responses.map ResponseEntry.summary)

/-- The lines of a summary. -/
def Generation.summaryLines (g : Generation) : List String :=
  g.operations.map OperationDescriptor.summary
    ++ (if g.imports.names.isEmpty then []
        else ["imports: " ++ ", ".intercalate g.imports.names])
    ++ g.diagnostics.map fun d => "warning: " ++ d.text

/-- The summary of a run. -/
def Generation.summary (g : Generation) : String :=
  String.join (g.summaryLines.map (· ++ "\n"))

end ServiceContract
