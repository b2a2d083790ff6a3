import Intake.Value

namespace Intake

inductive Severity where
  | debug
  | info
  | warning
  | error
  | critical
  deriving DecidableEq, Repr

def Severity.text : Severity → String
  | .debug => "debug"
  | .info => "info"
  | .warning => "warning"
  | .error => "error"
  | .critical => "critical"

/-- Something that happened, for the log. -/
structure Event where
  severity : Severity
  name : String
  fields : List (String × Value)

end Intake
