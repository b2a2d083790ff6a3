import Intake.Xml.Doctype

namespace Intake.Xml

/-- The namespaces that prefixes are bound to, inner bindings before outer ones. No prefix is the empty
one. -/
abbrev Scope := List (List Char × List Char)

namespace Scope

def xmlNamespace : List Char := "http://www.w3.org/XML/1998/namespace".toList

def xmlnsNamespace : List Char := "http://www.w3.org/2000/xmlns/".toList

def outermost : Scope := [("xml".toList, xmlNamespace)]

/-- Binds a prefix, unless that is not allowed. -/
def bind (s : Scope) (prefixed uri : List Char) : Except Cause Scope :=
  if uri.isEmpty && !prefixed.isEmpty then .error .unboundingPrefix
  else if prefixed = "xmlns".toList then .error .reservedXmlns
  else if uri.contains '\x7d' then .error .notGrammatical
  else if prefixed = "xml".toList && uri ≠ xmlNamespace then .error .reservedXml
  else if prefixed ≠ "xml".toList && uri = xmlNamespace then .error .reservedNamespace
  else if uri = xmlnsNamespace then .error .reservedNamespace
  else .ok ((prefixed, uri) :: s)

end Scope

/-- The prefix that an attribute binds, if it binds one. -/
def QName.bound? (q : QName) : Option (List Char) :=
  if q.qualifier = some "xmlns".toList then some q.localName
  else if q.text = "xmlns".toList then some []
  else none

/-- A name as it is written, taken apart at its colon. -/
def QName.ofText (s : List Char) : QName :=
  let first := s.takeWhile (· ≠ ':')
  match s.drop first.length with
  | [] => ⟨none, s⟩
  | _ :: second => ⟨some first, second⟩

/-- A start tag with its attributes resolved. -/
structure StartTag where
  name : List Char
  localName : String
  attributes : List (String × String)
  isEmpty : Bool
  scope : Scope

/-- What is known of a start tag while its attributes are resolved. -/
structure Resolving where
  seen : List (List Char)
  attributes : List (QName × List Char)
  scope : Scope
  added : Nat

namespace Resolving

/-- Takes an attribute in, or the binding that it stands for. -/
def addValue (r : Resolving) (home : Nat) (name : QName) (value : List Char) :
    Except Failure Resolving :=
  let seen := name.text :: r.seen
  match name.bound? with
  | none => .ok { r with seen, attributes := r.attributes ++ [(name, value)] }
  | some prefixed =>
    match r.scope.bind prefixed value with
    | .ok scope => .ok { r with seen, scope }
    | .error cause => .error (.at cause home)

/-- Whether an attribute's value is kept as it is written. -/
def isVerbatim (d : Doctype) (element name : List Char) : Bool :=
  match (d.rulesFor element).find? (·.name = name) with
  | some rule => rule.isVerbatim
  | none => true

def addWritten (d : Doctype) (home : Nat) (isDirect : Bool) (element : List Char) :
    Resolving → List RawAttribute → Except Failure Resolving
  | r, [] => .ok r
  | r, a :: rest => do
    if r.seen.contains a.name.text then
      throw (.at .duplicateAttribute (if isDirect then a.nameOffset else home))
    let (value, added) ← d.attributeValue home (if isDirect then some a.valueOffset else none)
      (isVerbatim d element a.name.text) r.added a.value
    let r ← { r with added }.addValue home a.name value
    addWritten d home isDirect element r rest

/-- Takes in the defaults of attributes that are not written. -/
def addDefaults (home : Nat) : Resolving → List AttributeRule → Except Failure Resolving
  | r, [] => .ok r
  | r, rule :: rest => do
    match rule.default with
    | some value =>
      if r.seen.contains rule.name then addDefaults home r rest
      else addDefaults home (← r.addValue home (.ofText rule.name) value) rest
    | none => addDefaults home r rest

/-- Every prefix of an attribute is bound, and no two attributes have one name in one namespace. -/
def checkPrefixes (home : Nat) (scope : Scope) :
    List (List Char × List Char) → List (QName × List Char) → Except Failure Unit
  | _, [] => .ok ()
  | met, (name, _) :: rest =>
    match name.qualifier with
    | none => checkPrefixes home scope met rest
    | some p =>
      match scope.lookup p with
      | none => .error (.at .unboundPrefix home)
      | some uri =>
        if met.contains (uri, name.localName) then .error (.at .duplicateAttribute home)
        else checkPrefixes home scope ((uri, name.localName) :: met) rest

end Resolving

/-- Resolves a start tag at a place: attributes with their values and defaults, and the namespaces that
it opens. The number that goes along counts what entities add. -/
def StartTag.ofRaw (d : Doctype) (home : Nat) (isDirect : Bool) (scope : Scope) (added : Nat)
    (t : RawTag) : Except Failure (StartTag × Nat) := do
  let element := t.name.text
  let r ← Resolving.addWritten d home isDirect element ⟨[], [], scope, added⟩ t.attributes
  let r ← Resolving.addDefaults home r (d.rulesFor element)
  Resolving.checkPrefixes home r.scope [] r.attributes
  if t.name.qualifier.any fun p => (r.scope.lookup p).isNone then throw (.at .unboundPrefix home)
  let attributes := r.attributes.map fun (name, value) =>
    (String.ofList name.localName, String.ofList value)
  return (⟨element, String.ofList t.name.localName, attributes, t.isEmpty, r.scope⟩, r.added)

end Intake.Xml
