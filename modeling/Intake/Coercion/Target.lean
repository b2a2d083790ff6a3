import Intake.TypeName

namespace Intake

/-- A type name taken apart: the built-in types, containers with the target of their members, and
names that stand for no built-in type. `splits` says that text is cut at commas into members, and an
`unclosed` container starts like one and names no member type. -/
inductive Target where
  | any
  | str
  | int
  | int32
  | float
  | bool
  | datetime
  | date
  | uuid
  | list (name : String) (splits : Bool) (element : Target)
  | dict (name : String) (element : Target)
  | unclosed (name : String) (isList : Bool)
  | other (name : String)
  deriving DecidableEq, Repr, Inhabited

namespace Target

def name : Target → String
  | .any => "any"
  | .str => "str"
  | .int => "int"
  | .int32 => "int32"
  | .float => "float"
  | .bool => "bool"
  | .datetime => "datetime"
  | .date => "date"
  | .uuid => "uuid"
  | .list name _ _ => name
  | .dict name _ => name
  | .unclosed name _ => name
  | .other name => name

def scalars : List Target := [.any, .str, .int, .int32, .float, .bool, .datetime, .date, .uuid]

/-- Element types whose lists may be written with commas. -/
def splittable : List String := ["str", "int", "int32", "float"]

/-- The target of a canonical name, each member type brought to its canonical name in turn. -/
def ofCanonical : Nat → String → Target
  | 0, name => .other name
  | fuel + 1, name =>
    match scalars.find? (·.name = name) with
    | some t => t
    | none =>
      let isList := "list[".toList.isPrefixOf name.toList
      if isList || "dict[".toList.isPrefixOf name.toList then
        match TypeName.element? name with
        | none => .unclosed name isList
        | some e =>
          let element := ofCanonical fuel (TypeName.canonical e)
          if isList then .list name (splittable.contains e) element else .dict name element
      else .other name

/-- The target of a type under any spelling of its name. -/
def ofName (name : String) : Target :=
  ofCanonical (name.length + 3) (TypeName.canonical name)

end Target

end Intake
