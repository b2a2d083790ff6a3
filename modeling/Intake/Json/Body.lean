import Intake.Json.Reader
import Intake.Payload

namespace Intake.Json

/-- The map that a document stands for: an object is one, and another value is held in one. -/
def toTable : Value → Table Value
  | .map entries => entries
  | .list items => [("data", .list items)]
  | v => [("value", v)]

def Problem.fault (contentType : Option String) : Problem → Fault
  | .tooDeep => .tooDeep
  | p => .payload ⟨"Invalid JSON: " ++ p.message, contentType⟩

/-- The map that a payload in JSON stands for; a blank payload is an empty map. -/
def readBody (p : Payload) (contentType : Option String) : Except Fault (Table Value) := do
  let text ← p.decode (Payload.charsetOf contentType)
  if (Text.trim text.toList).isEmpty then return []
  match read text with
  | .ok v => return toTable v
  | .error problem => throw (problem.fault contentType)

end Intake.Json
