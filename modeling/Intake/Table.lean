namespace Intake

/-- Entries under names, in the order in which the names were first put in. -/
abbrev Table (α : Type) := List (String × α)

namespace Table

variable {α : Type}

def get? : Table α → String → Option α
  | [], _ => none
  | (k, v) :: rest, name => if k = name then some v else get? rest name

def has (t : Table α) (name : String) : Bool := (get? t name).isSome

def names (t : Table α) : List String := t.map Prod.fst

def values (t : Table α) : List α := t.map Prod.snd

/-- Replaces the entry of a name where it stands, or adds one at the end. -/
def put : Table α → String → α → Table α
  | [], name, x => [(name, x)]
  | (k, v) :: rest, name, x => if k = name then (k, x) :: rest else (k, v) :: put rest name x

def remove : Table α → String → Table α
  | [], _ => []
  | (k, v) :: rest, name => if k = name then rest else (k, v) :: remove rest name

/-- Of pairs with one name the last gives the entry and the first the place. -/
def ofPairs (pairs : List (String × α)) : Table α :=
  pairs.foldl (fun t p => put t p.1 p.2) []

/-- Items under the names that `key` gives them, in the order in which a name first comes up. -/
def groupBy (key : α → String) (items : List α) : Table (List α) :=
  items.foldl (fun t x => put t (key x) ((get? t (key x)).getD [] ++ [x])) []

end Table

end Intake
