import Intake.Schema.Builder

namespace Intake

/-- What a schema is made with before anything is declared. -/
structure BlueprintOptions where
  name : String
  kind : Value
  unknown : Option Value
  stripNulls : Bool
  stripEmptyLists : Bool
  conversions : List (String × Conversion)

mutual

/-- One step in the making of a schema. -/
inductive Call where
  | field (decl : FieldDecl)
  | nested (decl : FieldDecl) (many : Bool) (child : Child)
  | group (trigger : String) (value : Option Value) (decls : List FieldDecl)
  | block (source : Value) (calls : List Call)
  | rule (spec : ValidatorSpec)
  | contentType (types : List String)
  | validatesTo (success : String) (failure : Option String)
  | unknownFields (policy : Value)

/-- What is given for a nested schema: a schema, finished before or after the field is declared, or
something of another kind. -/
inductive Child where
  | blueprint (b : Blueprint) (isFinished : Bool)
  | other (kind : String)

/-- The whole making of a schema. -/
inductive Blueprint where
  | mk (options : BlueprintOptions) (calls : List Call)

end

instance : Inhabited Call := ⟨.contentType []⟩

instance : Inhabited Blueprint := ⟨.mk ⟨"", .null, none, false, false, []⟩ []⟩

namespace BlueprintOptions

/-- A builder with nothing declared, unless an option makes no sense. -/
def start (o : BlueprintOptions) : Except Fault Builder × List Event :=
  match Conversions.empty.addAll o.conversions with
  | (.error f, events) => (.error (.definition f), events)
  | (.ok conversions, events) =>
    let result := do
      let kind ← SchemaKind.ofValue? o.kind
      let usual := match kind with
        | .response => UnknownFields.warn
        | .request => UnknownFields.ignore
      let unknown ← o.unknown.elim (.ok usual) UnknownFields.ofValue?
      return { name := o.name
               kind := kind
               unknown := unknown
               stripNulls := o.stripNulls
               stripEmptyLists := o.stripEmptyLists
               conversions := conversions.freeze
               fields := []
               rules := []
               groups := []
               nested := []
               contentTypes := []
               successType := none
               failureType := none
               source := .body
               events := events }
    (result, events)

end BlueprintOptions

/-- A nested schema when it is handed over: the schema, or what is there in its place, and what the log
says when it is taken out of its builder late. -/
structure Handed where
  schema : Except Fault Schema
  late : List Event

/-- Declares a field with a nested schema. The field is declared first and stays if there is no schema
for it. -/
def Builder.addNested (b : Builder) (d : FieldDecl) (many : Bool) (h : Handed) :
    Builder × Option Fault :=
  let type := if many then "list[any]" else "dict[any]"
  match b.addField { d with type := .spelled type } with
  | (b, some f) => (b, some f)
  | (b, none) =>
    match h.schema with
    | .error f => (b, some f)
    | .ok s => (Builder.log { b with nested := b.nested ++ [Binding.mk d.name many s] } h.late, none)

mutual

/-- A builder after a call, and the fault of the call if it fails. -/
def Call.run : Call → Builder → Builder × Option Fault
  | .field decl, b => b.addField decl
  | .nested decl many child, b =>
    match child.handOver with
    | (.error f, events) => (b.log events, some f)
    | (.ok h, events) => (b.log events).addNested decl many h
  | .group trigger value decls, b => b.addGroup trigger value decls
  | .block source calls, b =>
    match Source.ofValue? source with
    | .error f => (b, some f)
    | .ok s =>
      let (b', fault) := Call.runAll calls { b with source := s }
      ({ b' with source := b.source }, fault)
  | .rule spec, b => b.addRule spec
  | .contentType types, b => (b.addContentTypes types, none)
  | .validatesTo success failure, b =>
    ({ b with successType := some success, failureType := failure }, none)
  | .unknownFields policy, b => b.setUnknown policy

/-- Calls in order, up to the first that fails. -/
def Call.runAll : List Call → Builder → Builder × Option Fault
  | [], b => (b, none)
  | c :: rest, b =>
    match Call.run c b with
    | (b, some f) => (b, some f)
    | (b, none) => Call.runAll rest b

/-- A nested schema as it reaches the builder around it, unless its own making fails. -/
def Child.handOver : Child → Except Fault Handed × List Event
  | .other kind => (.ok ⟨.error (.definition (.notASchema kind)), []⟩, [])
  | .blueprint blueprint isFinished =>
    match blueprint.draft with
    | (.error f, events) => (.error f, events)
    | (.ok b, events) =>
      if isFinished then (.ok ⟨.ok b.schema, []⟩, events ++ b.builtEvents)
      else (.ok ⟨.ok b.schema, b.builtEvents⟩, events)

/-- The builder that a blueprint leads to, unless a call fails. -/
def Blueprint.draft : Blueprint → Except Fault Builder × List Event
  | .mk options calls =>
    match options.start with
    | (.error f, events) => (.error f, events)
    | (.ok b, _) =>
      match Call.runAll calls b with
      | (b, some f) => (.error f, b.events)
      | (b, none) => (.ok b, b.events)

end

/-- The schema that a blueprint leads to, and what the log says of its making. -/
def Blueprint.build (blueprint : Blueprint) : Except Fault Schema × List Event :=
  match blueprint.draft with
  | (.error f, events) => (.error f, events)
  | (.ok b, events) => (.ok b.schema, events ++ b.builtEvents)

end Intake
