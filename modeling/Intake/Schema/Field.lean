import Intake.Coercion.Registry
import Intake.Text.Order
import Intake.Validation.Validator

namespace Intake

/-- The part of a request that a field is read from. -/
inductive Source where
  | path
  | query
  | body
  | header
  | cookie
  | form
  | multipart
  deriving DecidableEq, Repr

namespace Source

def text : Source → String
  | .path => "path"
  | .query => "query"
  | .body => "body"
  | .header => "header"
  | .cookie => "cookie"
  | .form => "form"
  | .multipart => "multipart"

def all : List Source := [.path, .query, .body, .header, .cookie, .form, .multipart]

/-- Sources that stand for the body of a request. -/
def isBody : Source → Bool
  | .body => true
  | .form => true
  | .multipart => true
  | _ => false

end Source

/-- What becomes of keys that no field declares. -/
inductive UnknownFields where
  | ignore
  | allow
  | warn
  | forbid
  deriving DecidableEq, Repr

namespace UnknownFields

def text : UnknownFields → String
  | .ignore => "ignore"
  | .allow => "allow"
  | .warn => "warn"
  | .forbid => "forbid"

def all : List UnknownFields := [.ignore, .allow, .warn, .forbid]

/-- Whether undeclared keys are passed on. -/
def keeps : UnknownFields → Bool
  | .allow => true
  | .warn => true
  | _ => false

end UnknownFields

inductive SchemaKind where
  | request
  | response
  deriving DecidableEq, Repr

namespace SchemaKind

def text : SchemaKind → String
  | .request => "request"
  | .response => "response"

def all : List SchemaKind := [.request, .response]

end SchemaKind

/-- The member of a set of options that a value names. -/
def optionNamed? {α : Type} (label : String) (options : List α) (text : α → String) (v : Value) :
    Except Fault α :=
  match options.find? fun x => v.same (.text (text x)) with
  | some x => .ok x
  | none => .error (.badArgument (v.literal ++ " is not a valid " ++ label))

def Source.ofValue? (v : Value) : Except Fault Source :=
  optionNamed? "ParamSource" Source.all Source.text v

def UnknownFields.ofValue? (v : Value) : Except Fault UnknownFields :=
  optionNamed? "UnknownFields" UnknownFields.all UnknownFields.text v

def SchemaKind.ofValue? (v : Value) : Except Fault SchemaKind :=
  optionNamed? "SchemaKind" SchemaKind.all SchemaKind.text v

/-- A declared field: its type under its canonical name, where it is read from, and what is asked of
its value. -/
structure Field where
  name : String
  type : String
  required : Bool
  default : Option Value
  source : Source
  validators : List Validator
  otherName : Option String
  description : Option String

namespace Field

/-- The entry of a text that is there and not empty. -/
def filled (key : String) : Option String → Table Value
  | some s => if s = "" then [] else [(key, .text s)]
  | none => []

/-- The other name of a field, if it has one. -/
def alias? (f : Field) : Option String :=
  match f.otherName with
  | some a => if a = "" then none else some a
  | none => none

def describe (f : Field) : Value :=
  .map ([("name", .text f.name), ("type", .text f.type), ("required", .bool f.required),
      ("source", .text f.source.text), ("constraints", .list (f.validators.map Validator.describe))] ++
    (match f.default with
      | some v => [("default", v)]
      | none => []) ++ filled "alias" f.otherName ++ filled "description" f.description)

end Field

/-- Fields that apply only if another field has a given value, or, where no value is given, is there
at all. -/
structure Group where
  trigger : String
  value : Option Value
  fields : List Field

namespace Group

def requiredNames (g : Group) : List String := (g.fields.filter (·.required)).map (·.name)

def describe (g : Group) : Value :=
  .map [("trigger", .text g.trigger), ("value", g.value.getD (.text "present")),
    ("fields", .list (g.fields.map Field.describe)),
    ("required", Value.texts (Text.sorted g.requiredNames))]

def isSequence : Value → Bool
  | .list _ => true
  | .tuple _ => true
  | _ => false

mutual

/-- Whether a value is the one expected or a list that holds it; true and false match only each
themselves. -/
def isMatch (expected : Value) : Value → Bool
  | .list items =>
    if isSequence expected then (Value.list items).equal expected else anyMatch expected items
  | .tuple items =>
    if isSequence expected then (Value.tuple items).equal expected else anyMatch expected items
  | .bool a =>
    match expected with
    | .bool b => a = b
    | _ => false
  | actual =>
    match expected with
    | .bool _ => false
    | _ => actual.equal expected

def anyMatch (expected : Value) : List Value → Bool
  | [] => false
  | v :: rest => isMatch expected v || anyMatch expected rest

end

/-- Whether a group applies: its trigger is there and, where a value is asked for, has that value as
it was sent or in its own type. -/
def isActive (g : Group) (c : Context) : Bool :=
  match Table.get? c.data g.trigger with
  | none => false
  | some raw =>
    match g.value with
    | none => true
    | some expected =>
      isMatch expected raw || (Table.get? c.coerced g.trigger).any (isMatch expected)

end Group

end Intake
