import Intake.Event
import Intake.Report.Formatter
import Intake.Report.Summary
import Intake.Text.Order
import Intake.Text.Surrogate

namespace Intake

/-- An answer to a client: a status and a body that can be written as JSON. -/
structure Response where
  status : Int
  body : Value

namespace Response

/-- A point in time in JSON, with `Z` for no offset. -/
def momentText (m : Moment) : String :=
  match m.offset with
  | some o => if o.micros = 0 then (m.iso.dropEnd 6).toString ++ "Z" else m.iso
  | none => m.iso

def plainText (s : String) : Except Fault Value :=
  if Text.hasSurrogate s.toList then .error .notEncodable else .ok (.text s)

mutual

/-- A value as JSON can hold it. A number that is not finite and a text that is not well formed cannot
be written. -/
def jsonValue : Value → Except Fault Value
  | .float (.finite s m e) => .ok (.float (.finite s m e))
  | .float _ => .error (.badArgument "Out of range float values are not JSON compliant")
  | .text s => plainText s
  | .list items => (jsonItems items).map .list
  | .tuple items => (jsonItems items).map .list
  | .map entries => (jsonEntries entries).map .map
  | .bytes data =>
    match String.fromUTF8? ⟨data.toArray⟩ with
    | some s => .ok (.text s)
    | none => .error .notEncodable
  | .moment m => .ok (.text (momentText m))
  | .date d => .ok (.text d.iso)
  | .uuid u => .ok (.text u.text)
  | .null => .ok .null
  | .bool b => .ok (.bool b)
  | .int n => .ok (.int n)

def jsonItems : List Value → Except Fault (List Value)
  | [] => .ok []
  | v :: rest => do
    let w ← jsonValue v
    let ws ← jsonItems rest
    return w :: ws

def jsonEntries : List (String × Value) → Except Fault (List (String × Value))
  | [] => .ok []
  | (k, v) :: rest => do
    let _ ← plainText k
    let w ← jsonValue v
    let ws ← jsonEntries rest
    return (k, w) :: ws

end

def failed (r : Rejection) (schema : Option String) : Event :=
  ⟨.warning, "validation_error_response",
    [("schema", Value.ofOption schema), ("error_count", .int r.count),
      ("fields", Value.texts (Text.sortedDistinct (r.issues.map (·.path)))),
      ("codes", Value.texts (Text.sortedDistinct (r.issues.map (·.code))))]⟩

/-- The body of the answer to a payload that was rejected. -/
def failureBody (r : Rejection) (schema : Option String) (f : Formatter) (includeNotices : Bool) :
    Value :=
  .map [("error", .map ([("type", .text "validation_error"),
    ("message", .text (Report.summary r.issues)), ("error_count", .int r.count),
    ("errors", f.format r.issues),
    ("warnings", Formatter.formatNotices (if includeNotices then r.notices else []))] ++
    match schema with
    | some s => [("schema_name", .text s)]
    | none => []))]

/-- The answer to a payload that was rejected, and what the log says of it. -/
def failure (r : Rejection) (schema : Option String) (f : Formatter) (includeNotices : Bool)
    (status : Int) : Except Fault Response × List Event :=
  ((jsonValue (failureBody r schema f includeNotices)).map (⟨status, ·⟩), [failed r schema])

/-- The answer to a payload that could not be decoded, and what the log says of it. -/
def ofPayloadFault (p : PayloadFault) : Except Fault Response × List Event :=
  ((jsonValue (.map [("error", .map [("type", .text Code.invalidPayload.text),
      ("message", .text p.message)])])).map (⟨400, ·⟩),
    [⟨.info, "payload_rejected",
      [("content_type", Value.ofOption p.contentType), ("error", .text p.message)]⟩])

end Response

end Intake
