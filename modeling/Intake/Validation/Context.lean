import Intake.Event
import Intake.Issue

namespace Intake

/-- The state of one run: the input, the values of fields brought to their types so far, and what has
been found. -/
structure Context where
  data : Table Value
  coerced : Table Value
  issues : List Issue
  notices : List Notice
  events : List Event

namespace Context

def start (data : Table Value) : Context := ⟨data, [], [], [], []⟩

def hasField (c : Context) (name : String) : Bool := Table.has c.data name

/-- A field as it was sent. -/
def rawValue (c : Context) (name : String) (default : Value) : Value :=
  (Table.get? c.data name).getD default

/-- A field in its own type where it has been brought to it, else as it was sent. -/
def fieldValue (c : Context) (name : String) (default : Value) : Value :=
  match Table.get? c.coerced name with
  | some v => v
  | none => c.rawValue name default

def addIssue (c : Context) (i : Issue) : Context := { c with issues := c.issues ++ [i] }

def addIssues (c : Context) (is : List Issue) : Context := { c with issues := c.issues ++ is }

def addNotice (c : Context) (n : Notice) : Context := { c with notices := c.notices ++ [n] }

def addNotices (c : Context) (ns : List Notice) : Context := { c with notices := c.notices ++ ns }

def log (c : Context) (es : List Event) : Context := { c with events := c.events ++ es }

def setCoerced (c : Context) (name : String) (v : Value) : Context :=
  { c with coerced := Table.put c.coerced name v }

def hasIssues (c : Context) : Bool := !c.issues.isEmpty

def hasIssueFor (c : Context) (path : String) : Bool := c.issues.any (·.path = path)

/-- The fields sent and the counts of what has been found, on one line. -/
def summary (c : Context) : String :=
  "ValidationContext(fields=" ++ (Value.texts (Table.names c.data)).literal ++
    ", errors=" ++ toString c.issues.length ++ ", warnings=" ++ toString c.notices.length ++ ")"

end Context

end Intake
