import Intake.Validation.Validator

namespace Intake

/-- A validator as it is asked for. Whether it makes sense is seen when it is built. -/
inductive ValidatorSpec where
  | required (field : String)
  | length (field : String) (min max : Value)
  | range (field : String) (min max : Value)
  | format (field name : String) (pattern message : Option String)
  | enum (field : String) (allowed : List Value)
  | pattern (field regex : String) (message : Option String)
  | upload (field : String) (maxSize minSize : Value) (types extensions : List String)
      (filenamePattern : Option String)
  | custom (actions : List Action) (name field : String)
  | composite (members : List ValidatorSpec)
  | conditional (test : Predicate) (member : ValidatorSpec)
  | together (fields : List String)
  | oneOf (fields : List String)
  deriving Inhabited

namespace ValidatorSpec

/-- A bound is a number or absent. -/
def bound? (v : Value) : Except Fault (Option Number) :=
  if v.isNull then .ok none
  else match v.number? with
    | some n => .ok (some n)
    | none => .error .wrongKind

def defined {α : Type} : Except DefinitionFault α → Except Fault α
  | .ok x => .ok x
  | .error f => .error (.definition f)

/-- The bounds of a pair that has at least one, and no more of them than numbers. -/
def bounds? (min max : Value) : Except Fault (Option Number × Option Number) := do
  return (← bound? min, ← bound? max)

mutual

/-- A validator, or the fault that keeps it from being built. -/
def build : ValidatorSpec → Except Fault Validator
  | .required field => .ok (.required field)
  | .length field min max => do
    let (min, max) ← bounds? min max
    return .constraint field (← defined (Constraint.length? field min max))
  | .range field min max => do
    let (min, max) ← bounds? min max
    return .constraint field (← defined (Constraint.range? field min max))
  | .format field name source message =>
    (Constraint.format? field name source message).map (.constraint field)
  | .enum field allowed => (defined (Constraint.enum? field allowed)).map (.constraint field)
  | .pattern field regex message =>
    (Constraint.pattern? field regex message).map (.constraint field)
  | .upload field maxSize minSize types extensions filenamePattern => do
    let (max, min) ← bounds? maxSize minSize
    return .constraint field (← Constraint.upload? field max min types extensions filenamePattern)
  | .custom actions name field =>
    .ok (.custom (.script actions) name field)
  | .composite members => (buildAll members).map .composite
  | .conditional test member => (build member).map (.conditional test)
  | .together fields => defined (Validator.together? fields)
  | .oneOf fields => defined (Validator.oneOf? fields)

/-- Validators in order, up to the first that cannot be built. -/
def buildAll : List ValidatorSpec → Except Fault (List Validator)
  | [] => .ok []
  | s :: rest => do
    let v ← build s
    let vs ← buildAll rest
    return v :: vs

end

end ValidatorSpec

end Intake
