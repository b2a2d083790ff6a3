import Intake.Form.Retype
import Intake.Text.Blank

namespace Intake.Xml

/-- An element: its name, its attributes, the text before its first child, and its children, each with
the text behind it. -/
inductive Element where
  | mk (name : String) (attributes : List (String × String)) (text : String)
      (children : List (Element × String))

namespace Element

def name : Element → String
  | .mk name _ _ _ => name

/-- A child's value added under its name: the first stands as it is, and further ones make a list. -/
def addChild (repeated : List String) (node : Table Value) (name : String) (v : Value) :
    List String × Table Value :=
  match Table.get? node name with
  | none => (repeated, Table.put node name v)
  | some w =>
    match w, repeated.contains name with
    | .list items, true => (repeated, Table.put node name (.list (items ++ [v])))
    | w, _ => (name :: repeated, Table.put node name (.list [w, v]))

def addChildren : List String → Table Value → List (String × Value) → Table Value
  | _, node, [] => node
  | repeated, node, (name, v) :: rest =>
    let (repeated, node) := addChild repeated node name v
    addChildren repeated node rest

def attributeEntries : List (String × String) → Except Fault (List (String × Value))
  | [] => .ok []
  | (name, s) :: rest => do
    let v ← Form.retype s
    let entries ← attributeEntries rest
    return ("@" ++ name, v) :: entries

mutual

/-- The value of an element: a text if it has neither attributes nor children, and else a map of its
attributes, its children and its text. -/
def toValue : Nat → Element → Except Fault Value
  | 0, _ => .error .tooDeep
  | depth + 1, .mk _ attributes text children => do
    let text := String.ofList (Text.trim text.toList)
    if children.isEmpty && attributes.isEmpty then return ← Form.retype text
    let entries ← attributeEntries attributes
    let values ← childValues depth children
    let node := addChildren [] (Table.ofPairs entries) values
    if text = "" then return .map node
    return .map (Table.put node "#text" (← Form.retype text))

def childValues : Nat → List (Element × String) → Except Fault (List (String × Value))
  | _, [] => .ok []
  | depth, (child, _) :: rest => do
    let v ← toValue depth child
    let values ← childValues depth rest
    return (child.name, v) :: values

end

/-- A part of the content of a document, in the order in which it is read. -/
inductive Piece where
  | start (name : String) (attributes : List (String × String))
  | text (s : List Char)
  | stop

/-- An element that is being read: its children so far, the last one first, and the text at its end. -/
structure Open where
  name : String
  attributes : List (String × String)
  text : String
  children : List (Element × String)

namespace Open

def addText (o : Open) (s : List Char) : Open :=
  match o.children with
  | [] => { o with text := s.foldl String.push o.text }
  | (child, tail) :: rest => { o with children := (child, s.foldl String.push tail) :: rest }

def close (o : Open) : Element := .mk o.name o.attributes o.text o.children.reverse

end Open

/-- The element that pieces make. -/
def ofPieces : List Open → List Piece → Option Element
  | _, [] => none
  | opened, .start name attributes :: rest => ofPieces (⟨name, attributes, "", []⟩ :: opened) rest
  | [], _ :: _ => none
  | o :: outer, .text s :: rest => ofPieces (o.addText s :: outer) rest
  | [o], .stop :: _ => some o.close
  | o :: p :: outer, .stop :: rest =>
    ofPieces ({ p with children := (o.close, "") :: p.children } :: outer) rest

end Element

end Intake.Xml
