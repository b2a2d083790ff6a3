import Intake.Validation.Context

namespace Intake

/-- A condition on the state of a run. -/
inductive Predicate where
  | exists (field : String)
  | value (field : String) (expected : Value)
  | raw (field : String) (expected : Value)
  | hasIssues
  | hasIssueFor (path : String)
  | not (p : Predicate)
  | less (first second : String)
  | raises (message : String)
  deriving Inhabited

namespace Predicate

/-- The number in a field, true and false aside. -/
def plainNumber? : Value → Option Number
  | .int n => some (.int n)
  | .float x => some (.float x)
  | _ => none

/-- Whether a condition holds, unless it raises a message. -/
def eval (c : Context) : Predicate → Except String Bool
  | .exists field => .ok (c.hasField field)
  | .value field expected => .ok ((c.fieldValue field .null).same expected)
  | .raw field expected => .ok ((c.rawValue field .null).same expected)
  | .hasIssues => .ok c.hasIssues
  | .hasIssueFor path => .ok (c.hasIssueFor path)
  | .not p => (p.eval c).map (!·)
  | .less first second =>
    match plainNumber? (c.fieldValue first .null), plainNumber? (c.fieldValue second .null) with
    | some a, some b => .ok (a.lt b)
    | _, _ => .ok false
  | .raises message => .error message

end Predicate

/-- One step of a rule of one's own. -/
inductive Action where
  | report (issue : Issue)
  | notify (notice : Notice)
  | raises (message : String)
  | cond (test : Predicate) (yes no : List Action)
  deriving Inhabited

namespace Action

mutual

/-- The state after a step, and the message with which it stopped if it did. -/
def run : Action → Context → Context × Option String
  | .report issue, c => (c.addIssue issue, none)
  | .notify notice, c => (c.addNotice notice, none)
  | .raises message, c => (c, some message)
  | .cond test yes no, c =>
    match test.eval c with
    | .error message => (c, some message)
    | .ok true => runAll yes c
    | .ok false => runAll no c

/-- Steps in order, up to the first that stops. -/
def runAll : List Action → Context → Context × Option String
  | [], c => (c, none)
  | a :: rest, c =>
    match run a c with
    | (c, none) => runAll rest c
    | (c, some message) => (c, some message)

end

end Action

end Intake
