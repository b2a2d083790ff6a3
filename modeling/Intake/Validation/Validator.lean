import Intake.Validation.Constraint
import Intake.Validation.Script

namespace Intake

/-- A rule over several fields. -/
inductive Rule where
  | script (actions : List Action)
  | together (fields : List String)
  | oneOf (fields : List String)

namespace Rule

def listed (fields : List String) : Option (Table Value) := some [("fields", Value.texts fields)]

/-- All of the fields are there or none is. -/
def checkTogether (fields : List String) (c : Context) : Context :=
  let present := fields.filter fun f => !(c.rawValue f .null).isBlank
  if present.isEmpty || present.length = fields.length then c
  else
    c.addIssues ((fields.filter fun f => !present.contains f).map fun f =>
      .custom f ("Field '" ++ f ++ "' is required when " ++ Constraint.comma present ++ " is present")
        Code.requiresTogether.text (listed fields))

/-- One of the fields at least is there; the first one is blamed. -/
def checkOneOf (fields : List String) (c : Context) : Context :=
  if fields.all fun f => (c.rawValue f .null).isBlank then
    c.addIssue (.custom (fields.headD "")
      ("At least one of " ++ Constraint.comma fields ++ " is required") Code.requiresOneOf.text
      (listed fields))
  else c

def run (c : Context) : Rule → Context × Option String
  | .script actions => Action.runAll actions c
  | .together fields => (checkTogether fields c, none)
  | .oneOf fields => (checkOneOf fields c, none)

end Rule

inductive Validator where
  | required (field : String)
  | constraint (field : String) (c : Constraint)
  | custom (rule : Rule) (name field : String)
  | composite (members : List Validator)
  | conditional (test : Predicate) (member : Validator)

namespace Validator

/-- Adds what was found. -/
def settle (c : Context) (f : Findings) : Context × Option Fault :=
  (c.addIssues f.issues, f.fault)

/-- A rule that raises is reported as an issue of its own and does not stop the run. -/
def runRule (rule : Rule) (name field : String) (c : Context) : Context :=
  match rule.run c with
  | (c, none) => c
  | (c, some message) =>
    (c.log [⟨.warning, "custom_validator_raised", [("validator", .text name),
        ("error_type", .text "RuntimeError"), ("error", .text message)]⟩]).addIssue
      (.custom field ("Validator '" ++ name ++ "' failed: " ++ message) Code.validatorError.text
        (some [("validator", .text name)]))

mutual

/-- The state after a validator has run, and the fault that stopped it if one did. -/
def run : Validator → Context → Context × Option Fault
  | .required field, c =>
    if (c.rawValue field .null).isBlank then (c.addIssue (.required field), none) else (c, none)
  | .constraint field asked, c => settle c (asked.check field (c.fieldValue field .null))
  | .custom rule name field, c => (runRule rule name field c, none)
  | .composite members, c => runAll members c
  | .conditional test member, c =>
    match test.eval c with
    | .error message => (c, some (.scriptRaised message))
    | .ok true => run member c
    | .ok false => (c, none)

/-- Validators in order, up to the first that is stopped by a fault. -/
def runAll : List Validator → Context → Context × Option Fault
  | [], c => (c, none)
  | v :: rest, c =>
    match run v c with
    | (c, none) => runAll rest c
    | (c, some f) => (c, some f)

end

mutual

/-- A validator as a value. -/
def describe : Validator → Value
  | .required _ => .map [("kind", .text "required")]
  | .constraint _ c => c.describe
  | .custom _ name _ => .map [("kind", .text "custom"), ("name", .text name)]
  | .composite members =>
    .map [("kind", .text "composite"), ("validators", .list (describeAll members))]
  | .conditional _ member =>
    .map [("kind", .text "conditional"), ("validator", describe member)]

def describeAll : List Validator → List Value
  | [] => []
  | v :: rest => describe v :: describeAll rest

end

/-- A rule that two or more fields come together. -/
def together? (fields : List String) : Except DefinitionFault Validator :=
  if fields.length < 2 then .error .tooFewTogether
  else .ok (.custom (.together fields) ("requires_together(" ++ Constraint.comma fields ++ ")") "$")

/-- A rule that one of two or more fields is there. -/
def oneOf? (fields : List String) : Except DefinitionFault Validator :=
  if fields.length < 2 then .error .tooFewAlternatives
  else .ok (.custom (.oneOf fields) ("requires_one_of(" ++ Constraint.comma fields ++ ")") "$")

end Validator

end Intake
