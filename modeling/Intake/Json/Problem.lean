namespace Intake.Json

/-- What is wrong with a text that is no JSON document. -/
inductive Cause where
  | noValue
  | noName
  | noColon
  | noComma
  | extraData
  | openText
  | controlCharacter
  | badEscape
  | badUnicodeEscape
  | byteOrderMark
  deriving DecidableEq, Repr

def Cause.text : Cause → String
  | .noValue => "Expecting value"
  | .noName => "Expecting property name enclosed in double quotes"
  | .noColon => "Expecting ':' delimiter"
  | .noComma => "Expecting ',' delimiter"
  | .extraData => "Extra data"
  | .openText => "Unterminated string starting at"
  | .controlCharacter => "Invalid control character at"
  | .badEscape => "Invalid \\escape"
  | .badUnicodeEscape => "Invalid \\uXXXX escape"
  | .byteOrderMark => "Unexpected UTF-8 BOM (decode using utf-8-sig)"

/-- Why a text is not read: it is malformed at a place, an integer has too many digits, or the
containers are nested too deeply. -/
inductive Problem where
  | malformed (cause : Cause) (line column offset : Nat)
  | tooManyDigits (count : Nat)
  | tooDeep
  deriving DecidableEq, Repr

/-- Integers of more digits than this are not converted. -/
def digitLimit : Nat := 4300

def Problem.message : Problem → String
  | .malformed cause line column offset =>
    cause.text ++ ": line " ++ toString line ++ " column " ++ toString column ++
      " (char " ++ toString offset ++ ")"
  | .tooManyDigits count =>
    "Exceeds the limit (4300 digits) for integer string conversion: value has " ++ toString count ++
      " digits; use sys.set_int_max_str_digits() to increase the limit"
  | .tooDeep => "maximum recursion depth exceeded"

/-- A problem at an offset of a text, with lines and columns counted from one. -/
def Problem.at (document : List Char) (cause : Cause) (offset : Nat) : Problem :=
  let before := document.take offset
  let lines := before.filter (· = '\n')
  let column := (before.reverse.takeWhile (· ≠ '\n')).length
  .malformed cause (lines.length + 1) (column + 1) offset

end Intake.Json
