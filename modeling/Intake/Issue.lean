import Intake.Code
import Intake.Value

namespace Intake

/-- What kind of rule an issue comes from. -/
inductive IssueKind where
  | plain
  | required
  | typeMismatch
  | format
  | range
  | length
  | custom
  deriving DecidableEq, Repr

/-- One thing that is wrong with a payload, and where. -/
structure Issue where
  kind : IssueKind
  path : String
  message : String
  code : String
  details : Option (Table Value)

namespace Issue

/-- The same issue at another place. -/
def moved (i : Issue) (path : String) : Issue := { i with path := path }

def plain (path message : String) (code : String) (details : Option (Table Value)) : Issue :=
  ⟨.plain, path, message, code, details⟩

def custom (path message : String) (code : String) (details : Option (Table Value)) : Issue :=
  ⟨.custom, path, message, code, details⟩

def required (path : String) : Issue :=
  ⟨.required, path, "Field '" ++ path ++ "' is required", Code.requiredFieldMissing.text, none⟩

def typeMismatch (path expected actual : String) : Issue :=
  ⟨.typeMismatch, path, "Field '" ++ path ++ "' must be of type " ++ expected ++ ", got " ++ actual,
    Code.typeMismatch.text, some [("expected", .text expected), ("actual", .text actual)]⟩

/-- An issue's own message, or the usual one where there is none. -/
def messageOr (message : Option String) (usual : String) : String :=
  match message with
  | some m => if m = "" then usual else m
  | none => usual

def format (path format : String) (value : Value) (message : Option String) : Issue :=
  ⟨.format, path,
    messageOr message ("Field '" ++ path ++ "' has invalid format. Expected " ++ format),
    Code.invalidFormat.text, some [("format", .text format), ("value", value)]⟩

/-- A bound in a message: a whole number shows no fraction. -/
def boundText : Value → String
  | .float x =>
    match x.toInt? with
    | some n => String.ofList (Value.intText n)
    | none => x.text
  | v => v.display

/-- Entries under names, those without a value left out. -/
def present (entries : List (String × Value)) : Table Value :=
  entries.filter fun e => !e.2.isNull

def range (path : String) (min max value : Value) : Issue :=
  let message :=
    if !min.isNull && !max.isNull then
      "Field '" ++ path ++ "' must be between " ++ boundText min ++ " and " ++ boundText max
    else if !min.isNull then "Field '" ++ path ++ "' must be at least " ++ boundText min
    else if !max.isNull then "Field '" ++ path ++ "' must be at most " ++ boundText max
    else "Field '" ++ path ++ "' is out of range"
  ⟨.range, path, message, Code.outOfRange.text,
    some (present [("min", min), ("max", max), ("value", value)])⟩

def length (path : String) (min max actual : Value) : Issue :=
  let message :=
    if !min.isNull && !max.isNull then
      "Field '" ++ path ++ "' length must be between " ++ min.display ++ " and " ++ max.display ++
        " characters"
    else if !min.isNull then "Field '" ++ path ++ "' must be at least " ++ min.display ++ " characters"
    else if !max.isNull then "Field '" ++ path ++ "' must be at most " ++ max.display ++ " characters"
    else "Field '" ++ path ++ "' has invalid length"
  ⟨.length, path, message, Code.invalidLength.text,
    some (present [("min_length", min), ("max_length", max), ("actual_length", actual)])⟩

/-- The details of an issue unless there are none. -/
def shownDetails (i : Issue) : Option (Table Value) :=
  match i.details with
  | some [] => none
  | d => d

/-- An issue as a value: its place, message and code, and its details if it has any. -/
def toValue (i : Issue) : Value :=
  .map ([("field", .text i.path), ("message", .text i.message), ("code", .text i.code)] ++
    match i.shownDetails with
    | some d => [("details", .map d)]
    | none => [])

/-- Place and message on one line. -/
def line (i : Issue) : String := i.path ++ ": " ++ i.message

def detailsEqual : Option (Table Value) → Option (Table Value) → Bool
  | none, none => true
  | some a, some b => (Value.map a).equal (.map b)
  | _, _ => false

def equal (i j : Issue) : Bool :=
  i.kind = j.kind && i.path = j.path && i.message = j.message && i.code = j.code &&
    detailsEqual i.details j.details

end Issue

/-- Something worth saying about a payload that does not make it wrong. -/
structure Notice where
  path : String
  message : String
  code : String
  deriving DecidableEq, Repr

namespace Notice

/-- The same notice at another place. -/
def moved (n : Notice) (path : String) : Notice := { n with path := path }

def toValue (n : Notice) : Value :=
  .map [("field", .text n.path), ("message", .text n.message), ("code", .text n.code),
    ("type", .text "warning")]

end Notice

end Intake
