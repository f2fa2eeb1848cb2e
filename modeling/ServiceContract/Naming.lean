import ServiceContract.Text.Case

/-!
# Names

Names that are derived from other names: the symbols of an operation's decoders, and what an
operation without an id is called.
-/

namespace ServiceContract

/-- The symbol of an operation's decoder factory. -/
def decoderName (operationId : String) : String := operationId ++ "Decoder"

/-- The symbol of an operation's decoder for the declared success type. -/
def defaultDecoderName (operationId : String) : String := operationId ++ "DefaultDecoder"

/-- What diagnostics call an operation without an id. -/
def operationLabel (method path : String) : String := Text.upper method ++ " " ++ path

end ServiceContract
