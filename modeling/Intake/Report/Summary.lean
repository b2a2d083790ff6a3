import Intake.Issue
import Intake.Text.Escaped

namespace Intake

namespace Report

/-- One line: the message of a single issue, and counts where there are more. -/
def summary : List Issue → String
  | [] => "No errors"
  | [i] => i.message
  | issues =>
    let fields := (issues.map (·.path)).eraseDups.length
    toString issues.length ++ " validation errors in " ++ toString fields ++ " field" ++
      (if fields = 1 then "" else "s")

def issueLines (i : Issue) : List String :=
  ("    - " ++ i.message ++ " (" ++ i.code ++ ")") ::
    match i.shownDetails with
    | some d => ["      Details: " ++ (Value.map d).literal]
    | none => []

def groupLines (path : String) (issues : List Issue) : List String :=
  ("\n  Field: " ++ if path = "" then "(general)" else path) :: issues.flatMap issueLines

def noticeLines (notices : List Notice) : List String :=
  if notices.isEmpty then []
  else "\nWarnings:" ::
    notices.map fun n => "  - " ++ n.path ++ ": " ++ n.message ++ " (" ++ n.code ++ ")"

/-- Issues under their fields, with details, and then the notices. -/
def detailed (issues : List Issue) (notices : List Notice) : String :=
  "\n".intercalate ("Validation Errors:" ::
    ((Table.groupBy (·.path) issues).flatMap fun (path, is) => groupLines path is) ++
    noticeLines notices)

def itemHtml (i : Issue) : List Char :=
  "<li>".toList ++
    (if i.path = "" then []
      else "<strong>".toList ++ Text.escaped i.path.toList ++ ":</strong> ".toList) ++
    Text.escaped i.message.toList ++ "</li>".toList

/-- Issues as a list in markup; nothing for no issues. -/
def html (issues : List Issue) : String :=
  if issues.isEmpty then ""
  else String.ofList ("<div class=\"validation-errors\"><ul>".toList ++ issues.flatMap itemHtml ++
    "</ul></div>".toList)

end Report

end Intake
