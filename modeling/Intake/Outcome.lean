import Intake.Fault
import Intake.Issue

namespace Intake

/-- Everything that is wrong with a payload, and the payload as it was checked. -/
structure Rejection where
  issues : List Issue
  raw : Value
  notices : List Notice
  nonempty : issues ≠ []

namespace Rejection

def ofIssue (i : Issue) (raw : Value) : Rejection := ⟨[i], raw, [], List.cons_ne_nil _ _⟩

/-- A rejection for issues of which there has to be one. -/
def ofIssues? (issues : List Issue) (raw : Value) (notices : List Notice) : Except Fault Rejection :=
  if h : issues ≠ [] then .ok ⟨issues, raw, notices, h⟩
  else .error (.badArgument "ValidationFailure requires at least one error")

def count (r : Rejection) : Nat := r.issues.length

def messages (r : Rejection) : List String := r.issues.map (·.message)

def issuesFor (r : Rejection) (path : String) : List Issue := r.issues.filter (·.path = path)

def hasIssueFor (r : Rejection) (path : String) : Bool := r.issues.any (·.path = path)

def codesFor (r : Rejection) (path : String) : List String := (r.issuesFor path).map (·.code)

/-- The issues under the places they concern, places in the order of their first issue. -/
def byPath (r : Rejection) : Table (List Issue) := Table.groupBy (·.path) r.issues

/-- All places and messages on one line. -/
def text (r : Rejection) : String :=
  "Validation failed: " ++ "; ".intercalate (r.issues.map Issue.line)

def entries (r : Rejection) : Table Value :=
  [("errors", .list (r.issues.map Issue.toValue)), ("warnings", .list (r.notices.map Notice.toValue))]

def toValue (r : Rejection) : Value := .map (r.entries ++ [("raw_data", r.raw)])

def toValueWithoutRaw (r : Rejection) : Value := .map r.entries

def equal (r s : Rejection) : Bool :=
  r.issues.length = s.issues.length && (r.issues.zip s.issues).all (fun p => p.1.equal p.2)
    && r.raw.equal s.raw && r.notices = s.notices

end Rejection

/-- What checking a payload comes to. -/
inductive Outcome (α : Type) where
  | success (value : α) (notices : List Notice)
  | failure (error : Rejection)

namespace Outcome

variable {α β : Type}

def isSuccess : Outcome α → Bool
  | .success _ _ => true
  | .failure _ => false

def isFailure (o : Outcome α) : Bool := !o.isSuccess

def notices : Outcome α → List Notice
  | .success _ ns => ns
  | .failure r => r.notices

def value? : Outcome α → Option α
  | .success v _ => some v
  | .failure _ => none

def rejection? : Outcome α → Option Rejection
  | .success _ _ => none
  | .failure r => some r

def toList (o : Outcome α) : List α := o.value?.toList

def elim (o : Outcome α) (onSuccess : α → β) (onFailure : Rejection → β) : β :=
  match o with
  | .success v _ => onSuccess v
  | .failure r => onFailure r

/-- The value of a success under a function, notices kept. -/
def map (f : α → β) : Outcome α → Outcome β
  | .success v ns => .success (f v) ns
  | .failure r => .failure r

/-- A further step on a success. Its outcome takes the place of the old one, notices included. -/
def flatMap (f : α → Outcome β) : Outcome α → Outcome β
  | .success v _ => f v
  | .failure r => .failure r

/-- Another outcome in the place of a failure. -/
def orElse (f : Rejection → Outcome α) : Outcome α → Outcome α
  | .success v ns => .success v ns
  | .failure r => f r

def getD (o : Outcome α) (default : α) : α := o.elim id fun _ => default

/-- The value of a success. -/
def get? : Outcome α → Except Fault α
  | .success v _ => .ok v
  | .failure r => .error (.badArgument ("Called unwrap on Failure: " ++ r.text))

/-- A failure for issues of which there has to be one. -/
def ofIssues? (issues : List Issue) (raw : Value) (notices : List Notice) :
    Except Fault (Outcome α) :=
  (Rejection.ofIssues? issues raw notices).map .failure

/-- A success if there are no issues, else a failure. -/
def settle (issues : List Issue) (value : α) (raw : Value) (notices : List Notice) : Outcome α :=
  if h : issues ≠ [] then .failure ⟨issues, raw, notices, h⟩ else .success value notices

def toValue : Outcome Value → Value
  | .success v ns =>
    .map [("success", .bool true), ("data", v), ("warnings", .list (ns.map Notice.toValue))]
  | .failure r => .map (("success", .bool false) :: (r.entries ++ [("raw_data", r.raw)]))

/-- Equality of outcomes; the notices of successes do not count. -/
def equal : Outcome Value → Outcome Value → Bool
  | .success v _, .success w _ => v.equal w
  | .failure r, .failure s => r.equal s
  | _, _ => false

/-- The first success, or else the last failure. -/
def firstSuccess : List (Outcome α) → Except Fault (Outcome α)
  | [] => .error (.badArgument "first_success requires at least one outcome")
  | [o] => .ok o
  | o :: rest => if o.isSuccess then .ok o else firstSuccess rest

/-- All values if every outcome is a success, else all issues, with what was checked by each failure. -/
def combine (os : List (Outcome α)) : Outcome (List α) :=
  settle ((os.filterMap rejection?).flatMap (·.issues)) (os.filterMap value?)
    (.list ((os.filterMap rejection?).map (·.raw))) (os.flatMap notices)

/-- As `combine`, with outcomes under names. -/
def sequence (os : Table (Outcome α)) : Outcome (Table α) :=
  settle (((Table.values os).filterMap rejection?).flatMap (·.issues))
    (os.filterMap fun (k, o) => o.value?.map (k, ·))
    (.map (os.filterMap fun (k, o) => o.rejection?.map fun r => (k, r.raw)))
    ((Table.values os).flatMap notices)

end Outcome

end Intake
