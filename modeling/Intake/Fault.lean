namespace Intake

/-- A mistake in the definition of a schema or a registry. -/
inductive DefinitionFault where
  | unsupportedType (shown : String)
  | conversionsFrozen (name : String)
  | conversionTaken (name : String)
  | lengthWithoutBounds (field : String)
  | lengthNegative (field : String)
  | lengthCrossed (field : String)
  | rangeWithoutBounds (field : String)
  | rangeCrossed (field : String)
  | formatWithoutPattern (field : String)
  | badFormatPattern (field problem : String)
  | emptyEnum (field : String)
  | badPattern (field problem : String)
  | badFilenamePattern (field problem : String)
  | tooFewTogether
  | tooFewAlternatives
  | badFieldName (shown : String)
  | badDefault (shown name type : String)
  | duplicateField (name : String)
  | notASchema (kind : String)
  | parsersFrozen (mediaType : String)
  | emptyMediaType
  | parserTaken (mediaType : String)
  deriving DecidableEq, Repr

def DefinitionFault.detail : DefinitionFault → String
  | .unsupportedType shown => "Unsupported field type: " ++ shown
  | .conversionsFrozen name => "Coercion registry is frozen; cannot register '" ++ name ++ "'"
  | .conversionTaken name => "Coercion for type '" ++ name ++ "' is already registered"
  | .lengthWithoutBounds field => "Length validator for '" ++ field ++ "' requires min or max"
  | .lengthNegative field => "Length bounds for '" ++ field ++ "' must be non-negative"
  | .lengthCrossed field => "Length min exceeds max for '" ++ field ++ "'"
  | .rangeWithoutBounds field => "Range validator for '" ++ field ++ "' requires min or max"
  | .rangeCrossed field => "Range min exceeds max for '" ++ field ++ "'"
  | .formatWithoutPattern field => "Custom format for '" ++ field ++ "' requires a pattern"
  | .badFormatPattern field problem => "Invalid format pattern for '" ++ field ++ "': " ++ problem
  | .emptyEnum field => "Enum validator for '" ++ field ++ "' requires at least one allowed value"
  | .badPattern field problem => "Invalid pattern for '" ++ field ++ "': " ++ problem
  | .badFilenamePattern field problem => "Invalid filename pattern for '" ++ field ++ "': " ++ problem
  | .tooFewTogether => "requires_together needs at least two fields"
  | .tooFewAlternatives => "requires_one_of needs at least two fields"
  | .badFieldName shown => "Invalid field name: " ++ shown
  | .badDefault shown name type =>
    "Default value " ++ shown ++ " for '" ++ name ++ "' is not coercible to " ++ type
  | .duplicateField name => "Field '" ++ name ++ "' is already defined in this schema"
  | .notASchema kind => "Nested schema must be a SchemaDefinition, got " ++ kind
  | .parsersFrozen mediaType => "Parser registry is frozen; cannot register '" ++ mediaType ++ "'"
  | .emptyMediaType => "Parser content type must not be empty"
  | .parserTaken mediaType => "Parser for '" ++ mediaType ++ "' is already registered"

def DefinitionFault.message (f : DefinitionFault) : String :=
  "Schema definition error: " ++ f.detail

/-- A payload that cannot be decoded, with the content type it was sent under. -/
structure PayloadFault where
  message : String
  contentType : Option String
  deriving DecidableEq, Repr

/-- Why an operation does not return: a mistake in a definition, a malformed payload, or an argument
that the operation is not made for. -/
inductive Fault where
  | definition (f : DefinitionFault)
  | payload (f : PayloadFault)
  | badArgument (message : String)
  | missingKey
  | wrongKind
  | noAttribute
  | scriptRaised (message : String)
  | divisionByZero
  | tooLarge
  | tooDeep
  | notEncodable
  | badCharset
  | unknownCharset
  | badParserSetup
  | badSettings (names : List String)
  deriving DecidableEq, Repr

namespace Fault

/-- The text that a fault carries. -/
def text : Fault → String
  | .definition f => f.message
  | .payload f => f.message
  | .badArgument message => message
  | .scriptRaised message => message
  | _ => ""

end Fault

end Intake
