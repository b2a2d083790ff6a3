import Intake.Payload
import Intake.Text.Latin1
import Intake.Xml.Document

namespace Intake.Xml

/-- Elements nested more deeply are not converted. -/
def depthLimit : Nat := 980

/-- The map that a document stands for; the value of an element that has neither attributes nor children
is held in one. -/
def toTable : Value → Table Value
  | .map entries => entries
  | v => [("value", v)]

/-- The map that a payload in XML stands for; a blank payload is an empty map. -/
def readBody (p : Payload) (contentType : Option String) : Except Fault (Table Value) := do
  let data ← p.octets
  if data.all Text.isBlankOctet then return []
  let reading := readDocument data
  match reading.result with
  | .error f => throw (f.fault reading.characters contentType)
  | .ok e => return toTable (← e.toValue depthLimit)

end Intake.Xml
