import Intake.Form.Nested
import Intake.Form.Query

namespace Intake.Form

/-- The map that a payload written as a query stands for. -/
def readBody (isRetyped : Bool) (p : Payload) (contentType : Option String) : Reading :=
  match p.decode (Payload.charsetOf contentType) with
  | .error f => .silent (.error f)
  | .ok text =>
    ofPairs isRetyped ((readQuery (Text.trim text.toList)).map fun (name, v) => (name, .text v))

end Intake.Form
