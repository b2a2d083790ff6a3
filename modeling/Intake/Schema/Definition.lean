import Intake.Schema.Field

namespace Intake

/-- What a schema declares of its own, the schemas of nested values aside. -/
structure Outline where
  name : String
  kind : SchemaKind
  fields : List Field
  rules : List Validator
  groups : List Group
  contentTypes : List String
  successType : Option String
  failureType : Option String
  unknown : UnknownFields
  stripNulls : Bool
  stripEmptyLists : Bool
  conversions : Conversions

mutual

/-- A description of payloads: what is declared, and the fields whose maps follow further schemas. -/
inductive Schema where
  | mk (outline : Outline) (nested : List Binding)

/-- A field whose map, or each map in whose list, follows a schema. -/
inductive Binding where
  | mk (name : String) (many : Bool) (schema : Schema)

end

namespace Binding

def name : Binding → String
  | .mk name _ _ => name

def many : Binding → Bool
  | .mk _ many _ => many

def schema : Binding → Schema
  | .mk _ _ schema => schema

end Binding

namespace Outline

/-- Declared fields, then those of groups, each name once. -/
def allFields (o : Outline) : List Field :=
  (o.groups.flatMap (·.fields)).foldl
    (fun fs f => if fs.any (·.name = f.name) then fs else fs ++ [f]) o.fields

/-- Names of declared fields, then those of the fields of groups, without repeats. -/
def allNames (o : Outline) : List String :=
  (o.groups.flatMap fun g => g.fields.map (·.name)).foldl
    (fun names name => if names.contains name then names else names ++ [name])
    (o.fields.map (·.name))

def requiredNames (o : Outline) : List String := (o.fields.filter (·.required)).map (·.name)

def hasField (o : Outline) (name : String) : Bool := o.allNames.contains name

def field? (o : Outline) (name : String) : Option Field := o.fields.find? (·.name = name)

/-- The fields that are read from one part of a request. -/
def fieldsFrom (o : Outline) (source : Source) : List Field := o.allFields.filter (·.source = source)

def usesSource (o : Outline) (source : Source) : Bool := !(o.fieldsFrom source).isEmpty

end Outline

namespace Schema

def outline : Schema → Outline
  | .mk outline _ => outline

def nested : Schema → List Binding
  | .mk _ nested => nested

def name (s : Schema) : String := s.outline.name

def describe (s : Schema) : Value :=
  let o := s.outline
  .map [("name", .text o.name), ("kind", .text o.kind.text),
    ("fields", .list (o.fields.map Field.describe)),
    ("required", Value.texts (Text.sorted o.requiredNames)),
    ("conditionals", .list (o.groups.map Group.describe)),
    ("nested", .map (s.nested.map fun b =>
      (b.name, .map [("schema", .text b.schema.name), ("many", .bool b.many)]))),
    ("validators", .list (o.rules.map Validator.describe)),
    ("content_types", Value.texts o.contentTypes), ("success_type", Value.ofOption o.successType),
    ("failure_type", Value.ofOption o.failureType), ("unknown_fields", .text o.unknown.text)]

end Schema

end Intake
