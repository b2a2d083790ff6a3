import Intake.Form.Body
import Intake.Json.Body
import Intake.Multipart.Body
import Intake.Xml.Body

namespace Intake

/-- A way of reading payloads as maps. -/
inductive Parser where
  | json
  | form (isRetyped : Bool)
  | multipart
  | xml
  deriving DecidableEq, Repr

namespace Parser

/-- The media types that a parser is for. -/
def mediaTypes : Parser → List String
  | .json => ["application/json", "text/json"]
  | .form _ => ["application/x-www-form-urlencoded"]
  | .multipart => ["multipart/form-data"]
  | .xml => ["application/xml", "text/xml"]

/-- The map that a payload stands for. -/
def read (parser : Parser) (p : Payload) (contentType : Option String) : Reading :=
  match parser with
  | .json => .silent (Json.readBody p contentType)
  | .form isRetyped => Form.readBody isRetyped p contentType
  | .multipart => Multipart.readBody p contentType
  | .xml => .silent (Xml.readBody p contentType)

end Parser

end Intake
