import Intake.Parser.Registry
import Intake.Sanitizer
import Intake.Schema.Check

namespace Intake

/-- The parts of a request. -/
structure RequestParts where
  body : Table Value
  query : Table Value
  path : Table Value
  headers : Table Value
  cookies : Table Value

/-- What payloads have to pass: a schema, with the parsers that read them and a sanitizer that cleans
them before. -/
structure Admission where
  schema : Schema
  parsers : Parsers
  sanitizer : Option Sanitizer

namespace Admission

/-- The single issue of a payload that cannot be read. -/
def unreadable (fault : PayloadFault) (raw : Value) : Rejection :=
  .ofIssue (.custom "$" fault.message Code.invalidPayload.text none) raw

def cleaned (a : Admission) (data : Table Value) : Value :=
  match a.sanitizer with
  | some s => s.clean (.map data)
  | none => .map data

/-- Checks data that has been read. -/
def checkData (a : Admission) (data : Table Value) : Verdict := a.schema.validate (a.cleaned data)

def rejected (a : Admission) (contentType : Option String) (fault : PayloadFault) : Event :=
  ⟨.info, "payload_rejected", [("schema", .text a.schema.name),
    ("content_type", Value.ofOption contentType), ("error", .text fault.message)]⟩

/-- Reads a payload and checks what it stands for. -/
def check (a : Admission) (payload : Option Payload) (contentType : Option String) : Verdict :=
  let reading := a.parsers.read payload contentType
  match reading.result with
  | .error (.payload fault) =>
    let raw := (payload.map Payload.shown).getD .null
    ⟨.ok (.failure (unreadable fault raw)), reading.events ++ [a.rejected contentType fault]⟩
  | .error f => ⟨.error f, reading.events⟩
  | .ok data =>
    let v := a.checkData data
    ⟨v.result, reading.events ++ v.events⟩

/-- Headers under names in lower case; of several of one name the last counts. -/
def lowerNames (headers : Table Value) : Table Value :=
  Table.ofPairs (headers.map fun (k, v) => (lowerText k, v))

/-- A header under a field's key, or under the key with dashes for underscores. -/
def header? (headers : Table Value) (key : String) : Option Value :=
  let key := lowerText key
  match Table.get? headers key with
  | some v => some v
  | none => Table.get? headers (String.ofList (key.toList.map fun c => if c = '_' then '-' else c))

/-- What a request sends for a field that is not read from the body. -/
def sent? (parts : RequestParts) (headers : Table Value) (f : Field) : Option Value :=
  let key := match f.alias? with
    | some a => if a = "" then f.name else a
    | none => f.name
  match f.source with
  | .header => header? headers key
  | .query => Table.get? parts.query key
  | .path => Table.get? parts.path key
  | .cookie => Table.get? parts.cookies key
  | _ => none

/-- One map of what a request sends for the declared fields, each taken from its own part. Of the body,
entries with the names of fields that are read elsewhere are left out. -/
def assemble (a : Admission) (parts : RequestParts) : Table Value :=
  let elsewhere := a.schema.outline.allFields.filter fun f => !f.source.isBody
  let own := parts.body.filter fun e => !elsewhere.any (·.name = e.1)
  let headers := lowerNames parts.headers
  elsewhere.foldl (fun data f =>
    match sent? parts headers f with
    | some v => Table.put data f.name v
    | none => data) own

/-- Checks the parts of a request. -/
def checkParts (a : Admission) (parts : RequestParts) : Verdict := a.checkData (a.assemble parts)

end Admission

end Intake
