import Intake.Form.Nested
import Intake.Multipart.HeaderValue
import Intake.Multipart.Message
import Intake.Payload

namespace Intake.Multipart

def boundaryMissing (contentType : Option String) : Fault :=
  .payload ⟨"Multipart payload requires a boundary in its content type", contentType⟩

def malformed (contentType : Option String) (message : String) : Fault :=
  .payload ⟨"Malformed multipart payload: " ++ message, contentType⟩

/-- Boundaries may not be longer than this. -/
def maxBoundary : Nat := 256

/-- The header field of a content type taken apart. -/
def contentTypeValue (contentType : Option String) : Except Fault HeaderValue :=
  match HeaderValue.ofText? (contentType.getD "").toList with
  | some h => .ok h
  | none => .error .notEncodable

/-- The record of a file, whose content is not kept. -/
def fileRecord (name contentType size : Value) : Value :=
  .map [("filename", name), ("content_type", contentType), ("size", size)]

/-- The value of a part's header field; of several of one name the last counts. -/
def Part.header (p : Part) (name : String) : List UInt8 :=
  let found := p.headers.filter fun h => Text.lower (Text.ofLatin1 h.1) = name.toList
  Text.trimOctets ((found.getLast?.map Prod.snd).getD [])

def textOf (data : List UInt8) : String := String.ofList (Text.utf8Replacing data)

/-- The name and the value of a part, unless it has no name. A part with a file name is a file, and any
other is a text that is retyped. -/
def Part.entry? (contentType : Option String) (p : Part) : Except Fault (Option (String × Value)) := do
  let disposition := HeaderValue.ofOctets (p.header "content-disposition")
  let name := textOf ((disposition.get? "name").getD [])
  if name = "" then return none
  let declared := HeaderValue.ofOctets (p.header "content-type")
  match disposition.get? "filename" with
  | some filename =>
    let kind := String.ofList (Text.ofLatin1 declared.main)
    return some (name, fileRecord (.text (textOf filename)) (if kind = "" then .null else .text kind)
      (.int p.content.length))
  | none =>
    let charset := ((declared.get? "charset").map fun c => String.ofList (Text.ofLatin1 c)).getD "utf-8"
    match Charset.decodeNamed charset p.content with
    | .ok text => return some (name, ← Form.retype text)
    | .error problem =>
      throw (Payload.charsetFault
        (fun _ => ⟨"Part '" ++ name ++ "' is not valid " ++ charset ++ " text", contentType⟩) problem)

/-- The entries of a message that has come to its end. -/
def Message.entries (m : Message) (contentType : Option String) :
    Except Fault (List (String × Value)) :=
  match m.ending with
  | .malformed problem => .error (malformed contentType problem.message)
  | .cut _ => .error (malformed contentType "closing boundary not found")
  | .closed => (m.parts.mapM (Part.entry? contentType)).map (·.filterMap id)

/-- The map that a payload in several parts stands for. -/
def readEntries (p : Payload) (contentType : Option String) : Except Fault (List (String × Value)) := do
  let boundary := ((← contentTypeValue contentType).get? "boundary").getD []
  if boundary.isEmpty then throw (boundaryMissing contentType)
  let data ← p.octets
  if maxBoundary < boundary.length then throw .badParserSetup
  (Message.read boundary data).entries contentType

def readBody (p : Payload) (contentType : Option String) : Reading :=
  match readEntries p contentType with
  | .error f => .silent (.error f)
  | .ok entries => Form.build [] entries

end Intake.Multipart
