import Intake.Charset
import Intake.Fault

namespace Intake.Xml

/-- What is wrong with a text that is no document. -/
inductive Cause where
  | notGrammatical
  | noElement
  | invalidToken
  | unclosedToken
  | cutCharacter
  | mismatchedTag
  | duplicateAttribute
  | afterDocument
  | parameterReference
  | undefinedEntity
  | recursiveEntity
  | unbalancedEntity
  | badCharacterNumber
  | binaryEntity
  | externalInAttribute
  | misplacedDeclaration
  | unknownEncoding
  | wrongEncoding
  | unclosedSection
  | unboundPrefix
  | unboundingPrefix
  | badDeclaration
  | badPublicId
  | reservedXml
  | reservedXmlns
  | reservedNamespace
  | tooMuchExpansion
  deriving DecidableEq, Repr

def Cause.text : Cause → String
  | .notGrammatical => "syntax error"
  | .noElement => "no element found"
  | .invalidToken => "not well-formed (invalid token)"
  | .unclosedToken => "unclosed token"
  | .cutCharacter => "partial character"
  | .mismatchedTag => "mismatched tag"
  | .duplicateAttribute => "duplicate attribute"
  | .afterDocument => "junk after document element"
  | .parameterReference => "illegal parameter entity reference"
  | .undefinedEntity => "undefined entity"
  | .recursiveEntity => "recursive entity reference"
  | .unbalancedEntity => "asynchronous entity"
  | .badCharacterNumber => "reference to invalid character number"
  | .binaryEntity => "reference to binary entity"
  | .externalInAttribute => "reference to external entity in attribute"
  | .misplacedDeclaration => "XML or text declaration not at start of entity"
  | .unknownEncoding => "unknown encoding"
  | .wrongEncoding => "encoding specified in XML declaration is incorrect"
  | .unclosedSection => "unclosed CDATA section"
  | .unboundPrefix => "unbound prefix"
  | .unboundingPrefix => "must not undeclare prefix"
  | .badDeclaration => "XML declaration not well-formed"
  | .badPublicId => "illegal character(s) in public id"
  | .reservedXml =>
    "reserved prefix (xml) must not be undeclared or bound to another namespace name"
  | .reservedXmlns => "reserved prefix (xmlns) must not be declared or undeclared"
  | .reservedNamespace => "prefix must not be bound to one of the reserved namespace names"
  | .tooMuchExpansion =>
    "limit on input amplification factor (from DTD and entities) breached"

/-- Why reading stops: at a place, at a reference that stands for nothing known, or because the encoding
that the document names cannot be used. -/
inductive Failure where
  | at (cause : Cause) (offset : Nat)
  | unknownReference (text : List Char) (offset : Nat)
  | encoding (problem : Charset.Problem)
  | severalOctets

namespace Failure

/-- A failure inside the text of an entity, shown at the reference to it. -/
def within (offset : Nat) : Failure → Failure
  | .at cause _ => .at cause offset
  | .unknownReference text _ => .unknownReference text offset
  | f => f

/-- Line and column after some characters, lines counted from one and columns from zero. A carriage
return and the line feed after it make one line break. -/
def place (line column : Nat) : List Char → Nat × Nat
  | [] => (line, column)
  | [c] => if c = '\n' || c = '\r' then (line + 1, 0) else (line, column + 1)
  | c :: d :: rest =>
    if c = '\n' || (c = '\r' && d ≠ '\n') then place (line + 1) 0 (d :: rest)
    else if c = '\r' then place line column (d :: rest)
    else place line (column + 1) (d :: rest)

def located (document : List Char) (what : String) (offset : Nat) : String :=
  let (line, column) := place 1 0 (document.take offset)
  "Invalid XML: " ++ what ++ ": line " ++ toString line ++ ", column " ++ toString column

/-- The fault of a payload that is no document. -/
def fault (document : List Char) (contentType : Option String) : Failure → Fault
  | .at cause offset => .payload ⟨located document cause.text offset, contentType⟩
  | .unknownReference text offset =>
    .payload ⟨located document ("undefined entity " ++ String.ofList (text.take 100)) offset,
      contentType⟩
  | .encoding .undefined => .badCharset
  | .encoding .hasNull => .badArgument Charset.Problem.hasNull.message
  | .encoding _ => .unknownCharset
  | .severalOctets => .badArgument "multi-byte encodings are not supported"

end Failure

end Intake.Xml
