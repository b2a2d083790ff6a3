import Intake.Coercion
import Intake.Event
import Intake.Fault
import Intake.Issue

namespace Intake

/-- The conversions registered for type names; no more are taken once it is frozen. -/
structure Conversions where
  functions : Table Conversion
  frozen : Bool

namespace Conversions

def empty : Conversions := ⟨[], false⟩

/-- Adds a conversion for a canonical type name that has none yet. -/
def add (r : Conversions) (name : String) (f : Conversion) : Except DefinitionFault Conversions :=
  if r.frozen then .error (.conversionsFrozen name)
  else if Table.has r.functions name then .error (.conversionTaken name)
  else .ok { r with functions := r.functions ++ [(name, f)] }

/-- Adds a conversion for a type given in any form. -/
def register (r : Conversions) (type : TypeForm) (f : Conversion) :
    Except DefinitionFault Conversions :=
  match type.canonical with
  | .error shown => .error (.unsupportedType shown)
  | .ok name => r.add name f

def registered (name : String) : Event :=
  ⟨.debug, "custom_coercion_registered", [("type_name", .text name)]⟩

/-- Conversions under spelled type names, in order, and what the log says; the first that cannot be
registered ends it. -/
def addAll (r : Conversions) :
    List (String × Conversion) → Except DefinitionFault Conversions × List Event
  | [] => (.ok r, [])
  | (spelled, f) :: rest =>
    let name := TypeName.canonical spelled
    match r.add name f with
    | .error fault => (.error fault, [])
    | .ok r =>
      let (result, events) := addAll r rest
      (result, registered name :: events)

def freeze (r : Conversions) : Conversions := { r with frozen := true }

def find? (r : Conversions) (name : String) : Option Conversion := Table.get? r.functions name

def size (r : Conversions) : Nat := r.functions.length

/-- A value brought to a type given by a spelling of its name. -/
def coerce (r : Conversions) (type : String) (v : Value) : Coerced :=
  Coercion.run r.functions (Target.ofName type) v

/-- A value brought to a type given in any form. -/
def coerceTo (r : Conversions) (type : TypeForm) (v : Value) : Except DefinitionFault Coerced :=
  match type.canonical with
  | .error shown => .error (.unsupportedType shown)
  | .ok name => .ok (Coercion.run r.functions (Target.ofCanonical (name.length + 3) name) v)

/-- What the log says of a coercion: each registered conversion that failed. -/
def events (r : Conversions) (type : String) (v : Value) : List Event :=
  (Coercion.failures r.functions (Target.ofName type) v).map fun (name, message) =>
    ⟨.debug, "custom_coercion_failed", [("type_name", .text name), ("error", .text message)]⟩

end Conversions

def CoercionFault.fault : CoercionFault → Fault
  | .noElementType => .definition (.unsupportedType "None")
  | .tooDeep => .tooDeep

/-- The issue of a value that cannot be brought to a type. -/
def Issue.notCoercible (path : String) (v : Value) (type : String) : Issue :=
  .typeMismatch path type v.kind

end Intake
