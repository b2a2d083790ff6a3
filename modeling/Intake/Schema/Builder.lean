import Intake.Schema.Definition
import Intake.Validation.ValidatorSpec

namespace Intake

/-- A field as it is declared. Null stands for a bound that is not given, and a field without a source
takes that of the block around it. -/
structure FieldDecl where
  name : String
  type : TypeForm
  required : Bool
  default : Option Value
  source : Option Value
  otherName : Option String
  description : Option String
  minLength : Value
  maxLength : Value
  min : Value
  max : Value
  format : Option String
  enum : Option (List Value)
  pattern : Option String
  validators : List ValidatorSpec

namespace FieldDecl

/-- The validators that the constraints of a declaration stand for. -/
def constraints (d : FieldDecl) : List ValidatorSpec :=
  (if d.minLength.isNull && d.maxLength.isNull then []
    else [.length d.name d.minLength d.maxLength]) ++
  (if d.min.isNull && d.max.isNull then [] else [.range d.name d.min d.max]) ++
  (d.format.elim [] fun name => [.format d.name name none none]) ++
  (d.enum.elim [] fun allowed => [.enum d.name allowed]) ++
  (d.pattern.elim [] fun regex => [.pattern d.name regex none])

/-- A default has to be a value of the field's type, or null. -/
def defaultValue (d : FieldDecl) (type : String) (r : Conversions) : Except Fault (Option Value) :=
  match d.default with
  | none => .ok none
  | some .null => .ok (some .null)
  | some v =>
    match r.coerce type v with
    | .accepted w _ => .ok (some w)
    | .refused => .error (.definition (.badDefault v.literal d.name type))
    | .faulty f => .error f.fault

def defaultEvents (d : FieldDecl) (type : String) (r : Conversions) : List Event :=
  match d.default with
  | none => []
  | some v => r.events type v

def canonicalType (d : FieldDecl) : Except Fault String :=
  match d.type.canonical with
  | .ok name => .ok name
  | .error shown => .error (.definition (.unsupportedType shown))

/-- The field that a declaration stands for, and what the log says of its default. -/
def build (d : FieldDecl) (source : Source) (r : Conversions) (extra : List Validator) :
    Except Fault Field × List Event :=
  if d.name = "" then (.error (.definition (.badFieldName (Value.text d.name).literal)), [])
  else
    let typed := do
      let type ← d.canonicalType
      return (type, ← ValidatorSpec.buildAll d.constraints)
    match typed with
    | .error f => (.error f, [])
    | .ok (type, validators) =>
      let result := do
        let default ← d.defaultValue type r
        let source ← d.source.elim (.ok source) Source.ofValue?
        return ⟨d.name, type, d.required, default, source, validators ++ extra, d.otherName,
          d.description⟩
      (result, d.defaultEvents type r)

end FieldDecl

/-- A schema in the making, and what the log says of it. -/
structure Builder where
  name : String
  kind : SchemaKind
  unknown : UnknownFields
  stripNulls : Bool
  stripEmptyLists : Bool
  conversions : Conversions
  fields : List Field
  rules : List Validator
  groups : List Group
  nested : List Binding
  contentTypes : List String
  successType : Option String
  failureType : Option String
  source : Source
  events : List Event

namespace Builder

def log (b : Builder) (es : List Event) : Builder := { b with events := b.events ++ es }

/-- The schema as it stands. -/
def schema (b : Builder) : Schema :=
  .mk
    { name := b.name
      kind := b.kind
      fields := b.fields
      rules := b.rules
      groups := b.groups
      contentTypes := b.contentTypes
      successType := b.successType
      failureType := b.failureType
      unknown := b.unknown
      stripNulls := b.stripNulls
      stripEmptyLists := b.stripEmptyLists
      conversions := b.conversions }
    b.nested

def declaredNames (b : Builder) : List String :=
  b.fields.map (·.name) ++ b.groups.flatMap fun g => g.fields.map (·.name)

/-- Triggers of groups that are not declared themselves. -/
def undeclaredTriggers (b : Builder) : List String :=
  Text.sortedDistinct ((b.groups.map (·.trigger)).filter fun t => !b.declaredNames.contains t)

/-- What the log says when the schema is taken out. -/
def builtEvents (b : Builder) : List Event :=
  (if b.undeclaredTriggers.isEmpty then [] else
    [⟨.debug, "conditional_trigger_undeclared",
      [("schema", .text b.name), ("triggers", Value.texts b.undeclaredTriggers)]⟩]) ++
  [⟨.debug, "schema_built", [("schema", .text b.name), ("fields", .int b.fields.length),
    ("conditionals", .int b.groups.length), ("nested", .int b.nested.length)]⟩]

def hasField (b : Builder) (name : String) : Bool := b.fields.any (·.name = name)

def hasGroupField (b : Builder) (name : String) : Bool :=
  b.groups.any fun g => g.fields.any (·.name = name)

/-- The field that a declaration adds to those of a schema or a group, if the name is not taken. -/
def declare (b : Builder) (isTaken : Bool) (d : FieldDecl) : Builder × Except Fault Field :=
  match ValidatorSpec.buildAll d.validators with
  | .error f => (b, .error f)
  | .ok extra =>
    if isTaken then (b, .error (.definition (.duplicateField d.name)))
    else
      let (result, events) := d.build b.source b.conversions extra
      (b.log events, result)

/-- Declares a field of the schema. -/
def addField (b : Builder) (d : FieldDecl) : Builder × Option Fault :=
  match b.declare (b.hasField d.name || b.hasGroupField d.name) d with
  | (b, .error f) => (b, some f)
  | (b, .ok field) => ({ b with fields := b.fields ++ [field] }, none)

/-- The fields of a group, up to the first that cannot be declared. -/
def groupFields (b : Builder) (declared : List Field) :
    List FieldDecl → Builder × Except Fault (List Field)
  | [] => (b, .ok declared)
  | d :: rest =>
    match b.declare (b.hasField d.name || declared.any (·.name = d.name)) d with
    | (b, .error f) => (b, .error f)
    | (b, .ok field) => groupFields b (declared ++ [field]) rest

/-- Adds a group, unless one of its fields cannot be declared. -/
def addGroup (b : Builder) (trigger : String) (value : Option Value) (decls : List FieldDecl) :
    Builder × Option Fault :=
  match b.groupFields [] decls with
  | (b, .error f) => (b, some f)
  | (b, .ok fields) => ({ b with groups := b.groups ++ [⟨trigger, value, fields⟩] }, none)

def addRule (b : Builder) (s : ValidatorSpec) : Builder × Option Fault :=
  match s.build with
  | .error f => (b, some f)
  | .ok v => ({ b with rules := b.rules ++ [v] }, none)

def addContentTypes (b : Builder) (types : List String) : Builder :=
  { b with contentTypes := b.contentTypes ++ types.map Constraint.mediaTypeOf }

def setUnknown (b : Builder) (policy : Value) : Builder × Option Fault :=
  match UnknownFields.ofValue? policy with
  | .error f => (b, some f)
  | .ok p => ({ b with unknown := p }, none)

end Builder

end Intake
