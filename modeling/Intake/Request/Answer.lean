import Intake.Admission
import Intake.Report.Response
import Intake.Request.Cookie
import Intake.Request.FormData

namespace Intake

/-- A request to be checked. -/
structure Request where
  headers : List (String × String)
  path : String
  pathParameters : Table Value
  query : String
  body : List UInt8

/-- What a request is answered with: its checked data is handed on, or it is refused. -/
inductive Answer where
  | accepted (data : Table Value)
  | refused (response : Response)

namespace Request

/-- A header by its name in lower case; of several the first. -/
def header? (r : Request) (name : String) : Option String :=
  (r.headers.find? fun h => lowerText h.1 = name).map Prod.snd

def cookieTable (r : Request) : Table Value :=
  let sent := (r.headers.filter fun h => lowerText h.1 = "cookie").flatMap fun h => cookies h.2
  Table.ofPairs (sent.map fun (name, v) => (name, .text v))

/-- The path without what a query or a fragment would add to it. -/
def route (r : Request) : String :=
  String.ofList (r.path.toList.takeWhile fun c => c ≠ '?' && c ≠ '#')

/-- The map that the body stands for. A form in several parts is read by the rules for requests. -/
def readBody (r : Request) (parsers : Parsers) : Reading :=
  let contentType := r.header? "content-type"
  if r.body.isEmpty then .silent (.ok [])
  else
    match parsers.find? contentType with
    | some .multipart =>
      match readForm contentType r.body with
      | .error f => .silent (.error f)
      | .ok entries => Form.build [] entries
    | _ => parsers.read (some (.bytes r.body)) contentType

def queryTable (r : Request) : Reading :=
  Form.ofPairs true ((Form.readQuery r.query.toList).map fun (name, v) => (name, .text v))

def unread (contentType : Option String) (fault : PayloadFault) : Event :=
  ⟨.info, "payload_rejected",
    [("content_type", Value.ofOption contentType), ("error", .text fault.message)]⟩

/-- Checks what a request sends in all its parts. -/
def check (r : Request) (a : Admission) : Verdict :=
  let reading := r.readBody a.parsers
  match reading.result with
  | .error (.payload fault) =>
    ⟨.ok (.failure (Admission.unreadable fault (Payload.shown (.bytes r.body)))),
      reading.events ++ [unread (r.header? "content-type") fault]⟩
  | .error f => ⟨.error f, reading.events⟩
  | .ok body =>
    let query := r.queryTable
    match query.result with
    | .error f => ⟨.error f, reading.events ++ query.events⟩
    | .ok pairs =>
      let v := a.checkParts ⟨body, pairs, r.pathParameters,
        r.headers.map fun (k, v) => (k, .text v), r.cookieTable⟩
      ⟨v.result, reading.events ++ query.events ++ v.events⟩

/-- An event that also says which schema and which route it belongs to, unless it says so itself. -/
def located (r : Request) (a : Admission) (e : Event) : Event :=
  let bound := [("schema", Value.text a.schema.name), ("route", Value.text r.route)]
  { e with fields := e.fields ++ bound.filter fun b => !e.fields.any (·.1 = b.1) }

/-- Answers a request: a refusal lists what is wrong as the settings ask. -/
def answer (r : Request) (a : Admission) (settings : Except Fault Settings) :
    Except Fault Answer × List Event :=
  let v := r.check a
  let events := v.events.map (r.located a)
  match v.result with
  | .error f => (.error f, events)
  | .ok (.success data _) => (.ok (.accepted data), events)
  | .ok (.failure rejection) =>
    match settings with
    | .error f => (.error f, events)
    | .ok s =>
      let (response, more) := Response.failure rejection (some a.schema.name) (.ofSettings s)
        s.includeNotices 422
      (response.map .refused, events ++ more)

end Request

end Intake
