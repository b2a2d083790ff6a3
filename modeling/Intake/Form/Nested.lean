import Intake.Form.Key
import Intake.Form.Retype
import Intake.Reading

namespace Intake.Form

/-- What stands at the end of a path once a value is stored there: the value itself, or a list of what
was there and the value. A map takes no value. -/
def joined (append : Bool) (existing : Option Value) (v : Value) : Option Value :=
  match existing with
  | none => some (if append then .list [v] else v)
  | some (.map _) => none
  | some (.list items) => some (.list (items ++ [v]))
  | some w => some (.list [w, v])

/-- Where a way down a path ended: the map as it is then, and the name at which the path met a value of
another shape, if it did. -/
structure Descent where
  table : Table Value
  conflict : Option String

/-- The end of a way down that went through the map under a name. -/
def Descent.inside (name : String) (t : Table Value) (d : Descent) : Descent :=
  ⟨Table.put t name (.map d.table), d.conflict⟩

/-- Goes down a path and stores a value at its end. A map that is missing on the way is put in before the
rest of the path is looked at. -/
def descend : List String → Bool → Value → Table Value → Descent
  | [], _, _, t => ⟨t, none⟩
  | [last], append, v, t =>
    match joined append (Table.get? t last) v with
    | some w => ⟨Table.put t last w, none⟩
    | none => ⟨t, some last⟩
  | part :: rest, append, v, t =>
    match (Table.get? t part).getD .null with
    | .null => (descend rest append v []).inside part (Table.put t part (.map []))
    | .map m => (descend rest append v m).inside part t
    | _ => ⟨t, some part⟩

/-- A map after an attempt to store a value under a key. -/
structure Stored where
  table : Table Value
  accepted : Bool
  events : List Event

/-- Stores a value under a key that names a path, as far as the way down the path goes. -/
def store (t : Table Value) (key : String) (v : Value) : Stored :=
  let k := Key.ofText key
  if k.path.isEmpty then ⟨t, false, []⟩
  else
    let d := descend k.path k.append v t
    match d.conflict with
    | none => ⟨d.table, true, []⟩
    | some segment =>
      ⟨d.table, false, [⟨.debug, "key_conflict", [("key", .text key), ("segment", .text segment)]⟩]⟩

/-- Pairs stored one after another in a map. -/
def build (t : Table Value) : List (String × Value) → Reading
  | [] => .silent (.ok t)
  | (key, v) :: rest =>
    let s := store t key v
    (build s.table rest).after s.events

/-- As `build`, with texts retyped on the way. -/
def buildRetyped (t : Table Value) : List (String × Value) → Reading
  | [] => .silent (.ok t)
  | (key, v) :: rest =>
    match retypeValue v with
    | .error f => .silent (.error f)
    | .ok v =>
      let s := store t key v
      (buildRetyped s.table rest).after s.events

/-- The map that pairs stand for. -/
def ofPairs (isRetyped : Bool) (pairs : List (String × Value)) : Reading :=
  if isRetyped then buildRetyped [] pairs else build [] pairs

/-- The pairs of a map, a list standing for its members under one key. -/
def spread (entries : Table Value) : List (String × Value) :=
  entries.flatMap fun (k, v) =>
    match v with
    | .list items => items.map (k, ·)
    | .tuple items => items.map (k, ·)
    | v => [(k, v)]

end Intake.Form
