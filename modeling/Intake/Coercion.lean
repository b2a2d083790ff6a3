import Intake.Coercion.Scalar
import Intake.Coercion.Target
import Intake.Json.Reader
import Intake.Text.Split

namespace Intake

/-- Where a member stood in its container. -/
inductive Position where
  | index (n : Nat)
  | key (name : String)
  deriving DecidableEq, Repr

/-- Why a coercion cannot be carried out at all. -/
inductive CoercionFault where
  | noElementType
  | tooDeep
  deriving DecidableEq, Repr

/-- What becomes of a value: it is accepted, with the places of members that were left out, or
refused, or the target makes no sense for it. -/
inductive Coerced where
  | accepted (value : Value) (dropped : List Position)
  | refused
  | faulty (fault : CoercionFault)

namespace Coerced

def value? : Coerced → Option Value
  | .accepted v _ => some v
  | _ => none

def ofOption (v : Option Value) : Coerced :=
  match v with
  | some v => .accepted v []
  | none => .refused

end Coerced

/-- A function that takes the place of a built-in coercion. It fails with a message, or gives null to
refuse a value. -/
abbrev Conversion := Value → Except String Value

namespace Coercion

/-- How a value is seen by a list type: as several members, as one member, or as nothing. -/
inductive Spread where
  | members (items : List Value)
  | single
  | refused
  | tooDeep

/-- A text is an array in JSON, or members between commas where `splits` allows it, or one member. -/
def spreadText (splits : Bool) (s : String) : Spread :=
  let t := trimmed s
  let plain :=
    if !splits then .single
    else if t.isEmpty then .members []
    else .members ((Text.splitOn ',' t).map fun part => .text (String.ofList (Text.trim part)))
  if t.head? = some '[' then
    match Json.read (String.ofList t) with
    | .ok (.list items) => .members items
    | .error .tooDeep => .tooDeep
    | _ => plain
  else plain

def spread (splits : Bool) : Value → Spread
  | .text s => spreadText splits s
  | .list items => .members items
  | .tuple items => .members items
  | .map _ => .refused
  | _ => .single

/-- How a value is seen by a map type: as entries, or as nothing. -/
def spreadEntries (v : Value) : Except Unit (Option (List (String × Value))) :=
  match v with
  | .text s =>
    match Json.read s with
    | .ok (.map entries) => .ok (some entries)
    | .error .tooDeep => .error ()
    | _ => .ok none
  | .map entries => .ok (some entries)
  | _ => .ok none

/-- The members that are accepted, in order, and the positions of the others. -/
def gather : List (Position × Coerced) → Except CoercionFault (List (Position × Value) × List Position)
  | [] => .ok ([], [])
  | (p, c) :: rest =>
    match c with
    | .faulty f => .error f
    | .accepted v _ => (gather rest).map fun (kept, dropped) => ((p, v) :: kept, dropped)
    | .refused => (gather rest).map fun (kept, dropped) => (kept, p :: dropped)

def gatherList (members : List Coerced) : Coerced :=
  match gather (members.mapIdx fun i c => (.index i, c)) with
  | .ok (kept, dropped) => .accepted (.list (kept.map Prod.snd)) dropped
  | .error f => .faulty f

def keyOf : Position → String
  | .key name => name
  | .index n => toString n

def gatherMap (members : List (String × Coerced)) : Coerced :=
  match gather (members.map fun (k, c) => (.key k, c)) with
  | .ok (kept, dropped) => .accepted (.map (kept.map fun (p, v) => (keyOf p, v))) dropped
  | .error f => .faulty f

def applyConversion (f : Conversion) (v : Value) : Coerced :=
  match f v with
  | .ok .null => .refused
  | .ok w => .accepted w []
  | .error _ => .refused

/-- One value in the place of a list. -/
def wrapSingle : Coerced → Coerced
  | .accepted v _ => .accepted (.list [v]) []
  | c => c

/-- A container whose member type is not named takes no members. -/
def toUnclosed (isList : Bool) (v : Value) : Coerced :=
  if isList then
    match spread false v with
    | .members [] => .accepted (.list []) []
    | .members (_ :: _) => .faulty .noElementType
    | .single => .faulty .noElementType
    | .refused => .refused
    | .tooDeep => .faulty .tooDeep
  else
    match spreadEntries v with
    | .ok (some []) => .accepted (.map []) []
    | .ok (some (_ :: _)) => .faulty .noElementType
    | .ok none => .refused
    | .error _ => .faulty .tooDeep

/-- A value brought to a target. Null is refused, a conversion registered for the target's name
decides alone, and containers leave out the members that are refused. -/
def run (conversions : Table Conversion) (t : Target) (v : Value) : Coerced :=
  if v.isNull then .refused
  else match Table.get? conversions t.name with
    | some f => applyConversion f v
    | none =>
      match t with
      | .any => .accepted v []
      | .str => .ofOption ((toText? v).map .text)
      | .int => .ofOption ((toInt? int64Low int64High v).map .int)
      | .int32 => .ofOption ((toInt? int32Low int32High v).map .int)
      | .float => .ofOption ((toFloat? v).map .float)
      | .bool => .ofOption ((toBool? v).map .bool)
      | .datetime => .ofOption ((toMoment? v).map fun m => .text m.canonical)
      | .date => .ofOption ((toMoment? v).map fun m => .text m.date.iso)
      | .uuid => .ofOption ((toUuidText? v).map .text)
      | .list _ splits element =>
        match spread splits v with
        | .members items => gatherList (items.map (run conversions element))
        | .single => wrapSingle (run conversions element v)
        | .refused => .refused
        | .tooDeep => .faulty .tooDeep
      | .dict _ element =>
        match spreadEntries v with
        | .ok (some entries) => gatherMap (entries.map fun (k, x) => (k, run conversions element x))
        | .ok none => .refused
        | .error _ => .faulty .tooDeep
      | .unclosed _ isList => toUnclosed isList v
      | .other _ => .accepted v []

/-- The failures of registered conversions on the way, each with the type's name and the message. -/
def failures (conversions : Table Conversion) (t : Target) (v : Value) : List (String × String) :=
  if v.isNull then []
  else match Table.get? conversions t.name with
    | some f =>
      match f v with
      | .error message => [(t.name, message)]
      | .ok _ => []
    | none =>
      match t with
      | .list _ splits element =>
        match spread splits v with
        | .members items => items.flatMap (failures conversions element)
        | .single => failures conversions element v
        | _ => []
      | .dict _ element =>
        match spreadEntries v with
        | .ok (some entries) => entries.flatMap fun (_, x) => failures conversions element x
        | _ => []
      | _ => []

end Coercion

end Intake
