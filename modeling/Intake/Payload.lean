import Intake.Charset
import Intake.Fault
import Intake.Text.Blank
import Intake.Text.Case
import Intake.Text.Split
import Intake.Value

namespace Intake

/-- What is sent, before it is taken apart. -/
inductive Payload where
  | text (s : String)
  | bytes (data : List UInt8)

namespace Payload

def isQuote (c : Char) : Bool := c = '"'

def withoutQuotes (s : List Char) : List Char :=
  ((s.dropWhile isQuote).reverse.dropWhile isQuote).reverse

/-- The charset that the first parameter of that name gives, unless it is empty. -/
def charsetOf (contentType : Option String) : Option String :=
  let parameters := ((Text.splitOn ';' (contentType.getD "").toList).drop 1).map (Text.splitFirst '=')
  match parameters.find? fun p => Text.lower (Text.trim p.1) = "charset".toList with
  | none => none
  | some (_, value) =>
    let name := withoutQuotes (Text.trim value)
    if name.isEmpty then none else some (String.ofList name)

/-- The fault of octets that cannot be read as text. -/
def charsetFault (described : String → PayloadFault) : Charset.Problem → Fault
  | .undefined => .badCharset
  | .hasNull => .badArgument Charset.Problem.hasNull.message
  | .badName => .notEncodable
  | p => .payload (described p.message)

/-- The text of a payload, octets read in a charset. -/
def decode (p : Payload) (charset : Option String) : Except Fault String :=
  match p with
  | .text s => .ok s
  | .bytes data =>
    let given := charset.getD ""
    let name := if given = "" then "utf-8" else given
    match Charset.decodeNamed name data with
    | .ok s => .ok s
    | .error problem =>
      .error (charsetFault
        (fun m => ⟨"Payload is not valid " ++ name ++ " text: " ++ m, none⟩) problem)

/-- The octets of a payload, text written in UTF-8. -/
def octets (p : Payload) : Except Fault (List UInt8) :=
  match p with
  | .text s =>
    match Text.utf8? s with
    | some data => .ok data
    | none => .error .notEncodable
  | .bytes data => .ok data

/-- A payload as a value: text, whatever its octets are. -/
def shown : Payload → Value
  | .text s => .text s
  | .bytes data => .text (String.ofList (Text.utf8Replacing data))

end Payload

end Intake
