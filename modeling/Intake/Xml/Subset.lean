import Intake.Xml.Doctype
import Intake.Xml.PrologToken

namespace Intake.Xml.Doctype

abbrev Parse (α : Type) := Cursor → Except Failure (α × Cursor)

def unexpected {α : Type} (t : Placed) : Except Failure α := .error t.unexpected

/-- The mark that ends a declaration. -/
def expectClose (c : Cursor) : Except Failure Cursor := do
  let (t, c) ← Placed.next c
  if t.token = .close then return c else unexpected t

def expectName : Parse (List Char) := fun c => do
  let (t, c) ← Placed.next c
  match t.token with
  | .name s => return (s, c)
  | _ => unexpected t

def expectQName : Parse (List Char) := fun c => do
  let (t, c) ← Placed.next c
  match t.token with
  | .name s => return (s, c)
  | .prefixedName s => return (s, c)
  | _ => unexpected t

def expectLiteral : Parse (List Char × Nat) := fun c => do
  let (t, c) ← Placed.next c
  match t.token with
  | .literal s => return ((s, t.offset + 1), c)
  | _ => unexpected t

/-- Characters of public identifiers. -/
def isPublicChar (c : Char) : Bool :=
  c.isAlphanum || " \r\n-'()+,./:=?;!*#@$_%".toList.contains c

def expectPublicId (c : Cursor) : Except Failure Cursor := do
  let ((s, offset), c) ← expectLiteral c
  let good := (s.takeWhile isPublicChar).length
  if good < s.length then throw (.at .badPublicId (offset + good)) else return c

/-- The text that an entity is declared to stand for: numbers of characters are resolved and references
to entities stay. -/
def entityValue (start offset : Nat) : List Char → Except Failure (List Char)
  | [] => .ok []
  | c :: rest => do
    if c = '&' then
      match scanReference ⟨rest, offset + 1⟩ with
      | .error (.invalid n) => throw (.at .invalidToken n)
      | .error _ => throw (.at .invalidToken offset)
      | .ok (.character none, _) => throw (.at .badCharacterNumber offset)
      | .ok (.character (some v), after) =>
        let s ← entityValue start after.offset (rest.drop (after.offset - (offset + 1)))
        return v :: s
      | .ok (.entity _, _) =>
        let s ← entityValue start (offset + 1) rest
        return '&' :: s
    else if c = '%' then
      match PrologToken.scanPercent ⟨rest, offset + 1⟩ with
      | .ok (.parameterReference, _) => throw (.at .parameterReference offset)
      | .error (.invalid n) => throw (.at .invalidToken n)
      | .error _ => throw (.at .invalidToken offset)
      | .ok (_, after) => throw (.at .invalidToken after.offset)
    else if c = '\r' then
      let s ← entityValue start (offset + 1) rest
      return if rest.head? = some '\n' then s else '\n' :: s
    else
      let s ← entityValue start (offset + 1) rest
      return c :: s
termination_by s => s.length
decreasing_by
  all_goals simp only [List.length_drop, List.length_cons]
  all_goals omega

/-- The rest of a declaration of something outside the document, from its system identifier on. -/
def readExternal (isParameter : Bool) : Parse Entity := fun c => do
  let (_, c) ← expectLiteral c
  let (t, c) ← Placed.next c
  match t.token with
  | .close => return (.external, c)
  | .name s =>
    if s = "NDATA".toList && !isParameter then
      let (_, c) ← expectName c
      return (.unparsed, ← expectClose c)
    else unexpected t
  | _ => unexpected t

/-- What an entity is declared to be. -/
def readEntity (d : Doctype) (isParameter : Bool) : Parse Entity := fun c => do
  let (t, c) ← Placed.next c
  match t.token with
  | .literal s =>
    let text ← if d.counts then entityValue t.offset (t.offset + 1) s else .ok []
    return (.internal text, ← expectClose c)
  | .name s =>
    if s = "SYSTEM".toList then readExternal isParameter c
    else if s = "PUBLIC".toList then readExternal isParameter (← expectPublicId c)
    else unexpected t
  | _ => unexpected t

/-- A declaration of an entity; parameter entities are read and forgotten. -/
def readEntityDeclaration (d : Doctype) : Parse Doctype := fun c => do
  let (t, c) ← Placed.next c
  match t.token with
  | .percent =>
    let (_, c) ← expectName c
    let (_, c) ← readEntity d true c
    return (d, c)
  | .name name =>
    let (e, c) ← readEntity d false c
    return (if d.counts && (predefined? name).isNone then d.addEntity name e else d, c)
  | _ => unexpected t

def readNotation (c : Cursor) : Except Failure Cursor := do
  let (_, c) ← expectName c
  let (t, c) ← Placed.next c
  if t.token = .name "SYSTEM".toList then
    let (_, c) ← expectLiteral c
    expectClose c
  else if t.token = .name "PUBLIC".toList then
    let c ← expectPublicId c
    let (t, c) ← Placed.next c
    match t.token with
    | .close => return c
    | .literal _ => expectClose c
    | _ => unexpected t
  else unexpected t

/-- Alternatives between bars up to a parenthesis, each of a kind that is allowed. -/
def readAlternatives (isAllowed : PrologToken → Bool) : Nat → Cursor → Except Failure Cursor
  | 0, c => .error (.at .noElement c.offset)
  | fuel + 1, c => do
    let (t, c) ← Placed.next c
    if !isAllowed t.token then unexpected t
    let (t, c) ← Placed.next c
    match t.token with
    | .closeParen none => return c
    | .bar => readAlternatives isAllowed fuel c
    | _ => unexpected t

def isName : PrologToken → Bool
  | .name _ => true
  | _ => false

def isQName : PrologToken → Bool
  | .name _ => true
  | .prefixedName _ => true
  | _ => false

def isNameToken : PrologToken → Bool
  | .name _ => true
  | .prefixedName _ => true
  | .nameToken _ => true
  | _ => false

def tokenizedTypes : List String :=
  ["ID", "IDREF", "IDREFS", "ENTITY", "ENTITIES", "NMTOKEN", "NMTOKENS"]

/-- The type of an attribute: whether its values are kept as they are written. -/
def readAttributeType : Parse Bool := fun c => do
  let (t, c) ← Placed.next c
  match t.token with
  | .openParen => return (false, ← readAlternatives isNameToken (c.rest.length + 1) c)
  | .name s =>
    let word := String.ofList s
    if word = "CDATA" then return (true, c)
    else if tokenizedTypes.contains word then return (false, c)
    else if word = "NOTATION" then
      let (t, c) ← Placed.next c
      if t.token ≠ .openParen then unexpected t
      return (false, ← readAlternatives isName (c.rest.length + 1) c)
    else unexpected t
  | _ => unexpected t

/-- The default of an attribute, if it has one. -/
def readDefault (d : Doctype) (isVerbatim : Bool) : Parse (Option (List Char)) := fun c => do
  let (t, c) ← Placed.next c
  let value (offset : Nat) (s : List Char) : Except Failure (Option (List Char)) :=
    if d.counts then
      (d.attributeValue offset (some (offset + 1)) isVerbatim 0 s).map fun v => some v.1
    else .ok none
  match t.token with
  | .literal s => return (← value t.offset s, c)
  | .poundName s =>
    if s = "FIXED".toList then
      let ((s, offset), c) ← expectLiteral c
      return (← value (offset - 1) s, c)
    else if s = "IMPLIED".toList || s = "REQUIRED".toList then return (none, c)
    else unexpected t
  | _ => unexpected t

/-- The attributes of an element up to the end of their declaration. -/
def readRules (element : List Char) : Nat → Doctype → Parse Doctype
  | 0, _, c => .error (.at .noElement c.offset)
  | fuel + 1, d, c => do
    let (t, c) ← Placed.next c
    let rule (name : List Char) : Except Failure (Doctype × Cursor) := do
      let (isVerbatim, c) ← readAttributeType c
      let (default, c) ← readDefault d isVerbatim c
      let d := if d.counts then d.addRule ⟨element, name, isVerbatim, default⟩ else d
      readRules element fuel d c
    match t.token with
    | .close => return (d, c)
    | .name name => rule name
    | .prefixedName name => rule name
    | _ => unexpected t

/-- The rest of a model that mixes text and elements. -/
def readMixed : Nat → Cursor → Except Failure Cursor
  | 0, c => .error (.at .noElement c.offset)
  | fuel + 1, c => do
    let (t, c) ← Placed.next c
    match t.token with
    | .closeParen mark => if mark = some '*' then return c else unexpected t
    | .bar =>
      let (t, c) ← Placed.next c
      if isQName t.token then readMixed fuel c else unexpected t
    | _ => unexpected t

/-- A model of elements. For every parenthesis that is open it is known which connector it uses. -/
def readModel (expectsItem : Bool) : Nat → List (Option PrologToken) → Cursor → Except Failure Cursor
  | 0, _, c => .error (.at .noElement c.offset)
  | fuel + 1, levels, c => do
    let (t, c) ← Placed.next c
    if expectsItem then
      match t.token with
      | .openParen => readModel true fuel (none :: levels) c
      | .countedName => readModel false fuel levels c
      | token => if isQName token then readModel false fuel levels c else unexpected t
    else
      match t.token with
      | .closeParen _ =>
        match levels.drop 1 with
        | [] => return c
        | outer => readModel false fuel outer c
      | .comma | .bar =>
        match levels with
        | (some used) :: _ => if used ≠ t.token then unexpected t
        | _ => pure ()
        readModel true fuel (some t.token :: levels.drop 1) c
      | _ => unexpected t

def readElement (c : Cursor) : Except Failure Cursor := do
  let (_, c) ← expectQName c
  let (t, c) ← Placed.next c
  let fuel := c.rest.length + 1
  match t.token with
  | .name s =>
    if s = "EMPTY".toList || s = "ANY".toList then expectClose c else unexpected t
  | .openParen =>
    let (first, after) ← Placed.next c
    if first.token = .poundName "PCDATA".toList then
      let (t, c) ← Placed.next after
      match t.token with
      | .closeParen mark => if mark = none || mark = some '*' then expectClose c else unexpected t
      | _ => expectClose (← readMixed fuel after)
    else expectClose (← readModel true fuel [none] c)
  | _ => unexpected t

/-- Declarations up to the bracket that closes them. -/
def readSubset : Nat → Doctype → Parse Doctype
  | 0, _, c => .error (.at .noElement c.offset)
  | fuel + 1, d, c => do
    let (t, c) ← Placed.next c
    match t.token with
    | .comment | .instruction => readSubset fuel d c
    | .parameterReference =>
      readSubset fuel { d with mayBeIncomplete := true, counts := d.isStandalone } c
    | .closeBracket => return (d, c)
    | .declaration keyword =>
      match String.ofList keyword with
      | "ENTITY" =>
        let (d, c) ← readEntityDeclaration d c
        readSubset fuel d c
      | "ATTLIST" =>
        let (element, c) ← expectQName c
        let (d, c) ← readRules element (c.rest.length + 1) d c
        readSubset fuel d c
      | "ELEMENT" => readSubset fuel d (← readElement c)
      | "NOTATION" => readSubset fuel d (← readNotation c)
      | _ => unexpected t
    | _ => unexpected t

/-- The identifiers of declarations outside the document, if there are any, and what follows. -/
def readIdentifiers : Parse (Bool × Placed) := fun c => do
  let (t, c) ← Placed.next c
  let outside (c : Cursor) : Except Failure ((Bool × Placed) × Cursor) := do
    let (_, c) ← expectLiteral c
    let (t, c) ← Placed.next c
    return ((true, t), c)
  if t.token = .name "SYSTEM".toList then outside c
  else if t.token = .name "PUBLIC".toList then outside (← expectPublicId c)
  else return ((false, t), c)

/-- A document type declaration from behind its keyword on. -/
def read (isStandalone : Bool) : Parse Doctype := fun c => do
  let (_, c) ← expectQName c
  let ((isOutside, t), c) ← readIdentifiers c
  let d := { empty isStandalone with mayBeIncomplete := isOutside }
  match t.token with
  | .close => return (d, c)
  | .openBracket =>
    let (d, c) ← readSubset (c.rest.length + 1) d c
    return (d, ← expectClose c)
  | _ => unexpected t

end Intake.Xml.Doctype
