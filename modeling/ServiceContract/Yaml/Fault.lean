/-!
# Why a text is no YAML

The causes that end the reading of a YAML text, with their wording.
-/

namespace ServiceContract.Yaml

/-- The first thing that is wrong with a text. -/
inductive Fault where
  | forbiddenCharacter
  | unexpectedCharacter
  | tabIndentation
  | missingColon
  | misplacedEntry
  | misplacedKey
  | misplacedValue
  | badDirective
  | badVersion
  | badTag
  | badAnchor
  | badBlockHeader
  | unclosedQuote
  | markerInQuote
  | badEscape
  | unexpectedColon
  | missingNode
  | missingEntry
  | missingDocumentStart
  | duplicateDirective
  | undefinedHandle
  | severalDocuments
  | unknownAnchor
  | tooDeep
  | tooManyAliases
  | notAScalarKey
  | unknownTag
  | scalarDoesNotFit
  | numberTooWide
  | noSettings
  | duplicateSetting
  deriving DecidableEq, Repr

/-- The wording of the cause. -/
def Fault.message : Fault → String
  | forbiddenCharacter => "control characters are not allowed"
  | unexpectedCharacter => "found character that cannot start any token"
  | tabIndentation => "found a tab where an indentation space is expected"
  | missingColon => "could not find expected ':'"
  | misplacedEntry => "block sequence entries are not allowed in this context"
  | misplacedKey => "mapping keys are not allowed in this context"
  | misplacedValue => "mapping values are not allowed in this context"
  | badDirective => "found a malformed directive"
  | badVersion => "found incompatible YAML document"
  | badTag => "found a malformed tag"
  | badAnchor => "did not find expected alphabetic or numeric character"
  | badBlockHeader => "found a malformed block scalar header"
  | unclosedQuote => "found unexpected end of stream"
  | markerInQuote => "found unexpected document indicator"
  | badEscape => "found a malformed escape sequence"
  | unexpectedColon => "found unexpected ':'"
  | missingNode => "did not find expected node content"
  | missingEntry => "did not find expected entry or end of collection"
  | missingDocumentStart => "did not find expected <document start>"
  | duplicateDirective => "found duplicate directive"
  | undefinedHandle => "found undefined tag handle"
  | severalDocuments => "deserializing from YAML containing more than one document is not supported"
  | unknownAnchor => "unknown anchor"
  | tooDeep => "recursion limit exceeded"
  | tooManyAliases => "repetition limit exceeded"
  | notAScalarKey => "a key has to be a scalar"
  | unknownTag => "a tag has no meaning here"
  | scalarDoesNotFit => "a scalar does not fit its tag"
  | numberTooWide => "an integer does not fit into 64 bits"
  | noSettings => "settings have to be a mapping"
  | duplicateSetting => "duplicate field"

end ServiceContract.Yaml
