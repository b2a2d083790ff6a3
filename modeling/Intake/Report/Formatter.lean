import Intake.Outcome
import Intake.Settings

namespace Intake

/-- How issues are shown to clients. -/
structure Formatter where
  grouping : Grouping
  detail : DetailLevel
  includePath : Bool
  deriving DecidableEq, Repr

namespace Formatter

def usual : Formatter := ⟨.field, .standard, true⟩

def ofSettings (s : Settings) : Formatter := ⟨s.grouping, s.detail, true⟩

/-- What is shown of one issue. -/
def issue (f : Formatter) (i : Issue) : Value :=
  match f.detail with
  | .minimal => .text i.message
  | .full => i.toValue
  | .standard =>
    .map ([("message", .text i.message), ("code", .text i.code)] ++
      if f.includePath && i.path ≠ "" then [("field", .text i.path)] else [])

/-- The name under which an issue is shown. -/
def key (f : Formatter) (i : Issue) : String :=
  match f.grouping with
  | .code => i.code
  | _ => i.path

/-- Issues under their names, names in the order of their first issue. -/
def groups (f : Formatter) (issues : List Issue) : Table (List Value) :=
  (Table.groupBy f.key issues).map fun (k, is) => (k, is.map f.issue)

def format (f : Formatter) (issues : List Issue) : Value :=
  match f.grouping with
  | .none => .list (issues.map f.issue)
  | _ => .map ((f.groups issues).map fun (k, vs) => (k, .list vs))

def formatNotices (notices : List Notice) : Value := .list (notices.map Notice.toValue)

end Formatter

end Intake
