import Intake.Event
import Intake.Fault

namespace Intake

/-- What reading a payload comes to: a map unless there is a fault, and what is said to the log. -/
structure Reading where
  result : Except Fault (Table Value)
  events : List Event

namespace Reading

def silent (result : Except Fault (Table Value)) : Reading := ⟨result, []⟩

/-- A reading with events before its own. -/
def after (events : List Event) (r : Reading) : Reading := ⟨r.result, events ++ r.events⟩

end Reading

end Intake
