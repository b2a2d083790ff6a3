import Intake.Log.Processing

namespace Intake.Log

/-- Something handed to the log: by which logger, under which name, with which fields, and with the
fields bound around it. Records of `foreign` loggers carry no fields of their own. -/
structure Record where
  logger : String
  severity : Severity
  event : String
  fields : Fields
  context : Fields
  isForeign : Bool

/-- Where the log starts to speak, and whether it writes JSON. -/
structure Setup where
  threshold : Nat
  isJson : Bool
  settings : Settings

def levels : List (String × Nat) := [("CRITICAL", 50), ("FATAL", 50), ("ERROR", 40), ("WARNING", 30),
  ("WARN", 30), ("INFO", 20), ("DEBUG", 10), ("NOTSET", 0)]

def rank : Severity → Nat
  | .debug => 10
  | .info => 20
  | .warning => 30
  | .error => 40
  | .critical => 50

namespace Setup

/-- A level that is not given or empty is that of the settings, and one that is not known is `INFO`. -/
def ofSettings (settings : Settings) (level : Option String) (isJson : Option Bool) : Setup :=
  let given := level.getD ""
  let name := upperText (if given = "" then settings.logLevel else given)
  ⟨(levels.lookup name).getD 20, isJson.getD settings.logJson, settings⟩

def levelName (s : Setup) : String :=
  match levels.find? (·.2 = s.threshold) with
  | some (name, _) => name
  | none => ""

end Setup

/-- Loggers that are heard only from warnings on, and so are those below them. -/
def quiet : List String := ["httpcore", "httpx", "uvicorn.access"]

def quietThreshold : Nat := 30

def isQuiet (logger : String) : Bool :=
  quiet.any fun q => logger = q || (q ++ ".").toList.isPrefixOf logger.toList

def isHeard (s : Setup) (r : Record) : Bool :=
  (if isQuiet r.logger then quietThreshold else s.threshold) ≤ rank r.severity

mutual

/-- A value as JSON can hold it; what JSON does not know is written as a literal. -/
def written : Value → Value
  | .bytes data => .text (Value.bytes data).literal
  | .moment m => .text (Value.moment m).literal
  | .date d => .text (Value.date d).literal
  | .uuid u => .text (Value.uuid u).literal
  | .list items => .list (writtenItems items)
  | .tuple items => .list (writtenItems items)
  | .map entries => .map (writtenEntries entries)
  | v => v

def writtenItems : List Value → List Value
  | [] => []
  | v :: rest => written v :: writtenItems rest

def writtenEntries : List (String × Value) → List (String × Value)
  | [] => []
  | (k, v) :: rest => (k, written v) :: writtenEntries rest

end

def overlay (below above : Fields) : Fields := above.foldl (fun t e => Table.put t e.1 e.2) below

/-- Names of fields that are the log's own: what a record puts under them is not written. -/
def reservedKeys : List String := ["timestamp", "stack_info", "exc_info"]

/-- The fields of the line that a record leads to, but for the time at which it is written. -/
def line (s : Setup) (r : Record) : Fields :=
  let own := (if r.isForeign then [] else r.fields) ++ [("event", .text r.event)]
  let named := overlay (overlay r.context own)
    [("level", .text r.severity.text), ("logger", .text r.logger)]
  let free := named.filter fun e => !reservedKeys.contains e.1
  writtenEntries (redact (clip (addService s.settings (decodeOctets free))))

/-- The lines of the records that are heard. -/
def lines (s : Setup) (records : List Record) : List Fields :=
  (records.filter (isHeard s)).map (line s)

end Intake.Log
