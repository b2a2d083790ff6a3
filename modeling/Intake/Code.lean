namespace Intake

/-- What an issue or a notice is about, as clients know it. -/
inductive Code where
  | validationFailed
  | requiredFieldMissing
  | typeMismatch
  | invalidFormat
  | outOfRange
  | invalidLength
  | customValidationFailed
  | invalidEnumValue
  | patternMismatch
  | validatorError
  | requiresTogether
  | requiresOneOf
  | unexpectedField
  | invalidPayload
  | notAFile
  | fileTooLarge
  | fileTooSmall
  | invalidContentType
  | missingContentType
  | invalidFileExtension
  | invalidFilenamePattern
  | warning
  | unknownField
  | elementDropped
  deriving DecidableEq, Repr

def Code.text : Code → String
  | .validationFailed => "validation_failed"
  | .requiredFieldMissing => "required_field_missing"
  | .typeMismatch => "type_mismatch"
  | .invalidFormat => "invalid_format"
  | .outOfRange => "out_of_range"
  | .invalidLength => "invalid_length"
  | .customValidationFailed => "custom_validation_failed"
  | .invalidEnumValue => "invalid_enum_value"
  | .patternMismatch => "pattern_mismatch"
  | .validatorError => "validator_error"
  | .requiresTogether => "requires_together"
  | .requiresOneOf => "requires_one_of"
  | .unexpectedField => "unexpected_field"
  | .invalidPayload => "invalid_payload"
  | .notAFile => "not_a_file"
  | .fileTooLarge => "file_too_large"
  | .fileTooSmall => "file_too_small"
  | .invalidContentType => "invalid_content_type"
  | .missingContentType => "missing_content_type"
  | .invalidFileExtension => "invalid_file_extension"
  | .invalidFilenamePattern => "invalid_filename_pattern"
  | .warning => "warning"
  | .unknownField => "unknown_field"
  | .elementDropped => "element_dropped"

end Intake
