import Intake.Parser
import Intake.Text.Order

namespace Intake

/-- The parsers registered for media types; no more are taken once it is frozen. -/
structure Parsers where
  byType : Table Parser
  frozen : Bool

/-- The media type of a content type: without parameters, in lower case. -/
def mediaType (contentType : Option String) : String :=
  let (type, _) := Text.splitFirst ';' (contentType.getD "").toList
  String.ofList (Text.lower (Text.trim type))

namespace Parsers

def empty : Parsers := ⟨[], false⟩

/-- Registers a parser for a content type, in the place of another only if that is asked for. -/
def add (r : Parsers) (contentType : String) (parser : Parser) (replace : Bool) :
    Except DefinitionFault Parsers :=
  let type := mediaType (some contentType)
  if r.frozen then .error (.parsersFrozen type)
  else if type = "" then .error .emptyMediaType
  else if Table.has r.byType type && !replace then .error (.parserTaken type)
  else .ok { r with byType := Table.put r.byType type parser }

/-- Registers a parser for content types one after another; the first that is refused ends it, and those
before it stay. -/
def addAll (r : Parsers) (parser : Parser) (replace : Bool) :
    List String → Parsers × Option DefinitionFault
  | [] => (r, none)
  | type :: rest =>
    match r.add type parser replace with
    | .error fault => (r, some fault)
    | .ok r => addAll r parser replace rest

/-- Registers a parser for all media types that it is for. -/
def addParser (r : Parsers) (parser : Parser) (replace : Bool) : Parsers × Option DefinitionFault :=
  r.addAll parser replace parser.mediaTypes

def freeze (r : Parsers) : Parsers := { r with frozen := true }

def contentTypes (r : Parsers) : List String := Text.sorted (Table.names r.byType)

/-- The parser for a content type. A type that ends in `+json` or `+xml` is read like the plain one. -/
def find? (r : Parsers) (contentType : Option String) : Option Parser :=
  let type := mediaType contentType
  match Table.get? r.byType type with
  | some parser => some parser
  | none =>
    if "+json".toList.isSuffixOf type.toList then Table.get? r.byType "application/json"
    else if "+xml".toList.isSuffixOf type.toList then Table.get? r.byType "application/xml"
    else none

def supports (r : Parsers) (contentType : Option String) : Bool := (r.find? contentType).isSome

/-- The first character of a payload that is not blank. -/
def firstMark? : Payload → Option Char
  | .text s => (Text.trimStart s.toList).head?
  | .bytes data => (Text.ofLatin1 (data.dropWhile Text.isBlankOctet)).head?

/-- The parser that the first mark of a payload asks for, with the name of what was detected. -/
def sniff? (r : Parsers) (p : Payload) : Option (String × Parser) :=
  let mark := firstMark? p
  let found (name type : String) := (Table.get? r.byType type).map (name, ·)
  if mark = some '\x7b' || mark = some '[' then found "json" "application/json"
  else if mark = some '<' then found "xml" "application/xml"
  else none

def fellBack (contentType detected : Option String) : Event :=
  ⟨.debug, "parser_fallback",
    [("content_type", Value.ofOption contentType), ("detected", Value.ofOption detected)]⟩

/-- The map that a payload stands for. Without a parser for its content type the payload itself shows
what it is, or else it stands for an empty map. -/
def read (r : Parsers) (payload : Option Payload) (contentType : Option String) : Reading :=
  match payload with
  | none => .silent (.ok [])
  | some p =>
    match r.find? contentType with
    | some parser => parser.read p contentType
    | none =>
      match r.sniff? p with
      | some (name, parser) => (parser.read p contentType).after [fellBack contentType (some name)]
      | none => ⟨.ok [], [fellBack contentType none]⟩

/-- A registry of the parsers for all formats. -/
def standard : Parsers :=
  [Parser.json, .form true, .multipart, .xml].foldl (fun r p => (r.addParser p false).1) empty

end Parsers

end Intake
