import Intake.Xml.Name

namespace Intake.Xml

/-- What is left of a text, and how many characters stand before it. -/
structure Cursor where
  rest : List Char
  offset : Nat

namespace Cursor

def peek? (c : Cursor) : Option Char := c.rest.head?

def advance (c : Cursor) (n : Nat) : Cursor := ⟨c.rest.drop n, c.offset + n⟩

def skipSpace (c : Cursor) : Cursor := c.advance (c.rest.takeWhile isSpace).length

def startsWith (c : Cursor) (s : String) : Bool := s.toList.isPrefixOf c.rest

end Cursor

/-- Stands in a document for octets that are no character. -/
def badMark : Char := '\ufffe'

/-- Stands at the end of a document for a character of which octets are missing. -/
def cutMark : Char := '\uffff'

/-- Stands at the end of a document for the first of two octets that make a character together. -/
def halfMark : Char := '\x00'

/-- Why a token is not whole: a character that cannot stand there, the end of the text, or the end of the
text inside a character. -/
inductive Stop where
  | invalid (offset : Nat)
  | unclosed
  | cut
  deriving DecidableEq, Repr

/-- A character that the token cannot go on with. -/
def refuse {α : Type} (c : Cursor) : Except Stop α :=
  match c.rest with
  | [] => .error .unclosed
  | d :: _ => if d = halfMark then .error .unclosed else .error (.invalid c.offset)

/-- A character where the token could go on with one beyond ASCII. -/
def refuseText {α : Type} (c : Cursor) : Except Stop α :=
  if c.peek? = some cutMark then .error .cut else refuse c

/-- A character that has to stand here. -/
def expect (d : Char) (c : Cursor) : Except Stop Cursor :=
  if c.peek? = some d then .ok (c.advance 1) else refuse c

/-- A name without colons. -/
def scanName (c : Cursor) : Except Stop (List Char × Cursor) :=
  match c.rest with
  | d :: rest =>
    if isNameStart d then
      let name := d :: rest.takeWhile isNameChar
      let c' := c.advance name.length
      if c'.peek? = some cutMark then .error .cut else .ok (name, c')
    else refuseText c
  | [] => .error .unclosed

/-- A name that may have a part before a colon. -/
structure QName where
  qualifier : Option (List Char)
  localName : List Char
  deriving DecidableEq, Repr

/-- A qualified name as it is written. -/
def QName.text (q : QName) : List Char :=
  match q.qualifier with
  | some p => p ++ ':' :: q.localName
  | none => q.localName

def scanQName (c : Cursor) : Except Stop (QName × Cursor) := do
  let (first, c) ← scanName c
  if c.peek? = some ':' then
    let (second, c) ← scanName (c.advance 1)
    if c.peek? = some ':' then throw (.invalid c.offset)
    return (⟨some first, second⟩, c)
  return (⟨none, first⟩, c)

/-- A reference to a character by its number, unless there is none of that number, or to an entity. -/
inductive Reference where
  | character (c : Option Char)
  | entity (name : List Char)
  deriving DecidableEq, Repr

def hexDigitValue? (c : Char) : Option Nat :=
  if '0' ≤ c && c ≤ '9' then some (c.toNat - 48)
  else if 'a' ≤ c && c ≤ 'f' then some (c.toNat - 87)
  else if 'A' ≤ c && c ≤ 'F' then some (c.toNat - 55)
  else none

def decimalDigitValue? (c : Char) : Option Nat :=
  if '0' ≤ c && c ≤ '9' then some (c.toNat - 48) else none

/-- A number whose digits are read by `digit?`, up to a semicolon. -/
def scanNumber (base : Nat) (digit? : Char → Option Nat) (c : Cursor) :
    Except Stop (Reference × Cursor) := do
  let digits := c.rest.takeWhile fun d => (digit? d).isSome
  if digits.isEmpty then refuse c
  let n := digits.foldl (fun n d => n * base + (digit? d).getD 0) 0
  let c ← expect ';' (c.advance digits.length)
  return (.character (if isAllowed n then some (Char.ofNat n) else none), c)

/-- A reference from behind its ampersand on. -/
def scanReference (c : Cursor) : Except Stop (Reference × Cursor) := do
  if c.startsWith "#x" then scanNumber 16 hexDigitValue? (c.advance 2)
  else if c.startsWith "#" then scanNumber 10 decimalDigitValue? (c.advance 1)
  else
    let (name, c) ← scanName c
    let c ← expect ';' c
    return (.entity name, c)

/-- The character of an entity that is always declared. -/
def predefined? (name : List Char) : Option Char :=
  [("lt", '<'), ("gt", '>'), ("amp", '&'), ("quot", '"'), ("apos", '\'')].lookup (String.ofList name)

/-- An attribute as it is written. -/
structure RawAttribute where
  name : QName
  nameOffset : Nat
  value : List Char
  valueOffset : Nat

/-- The value of an attribute up to a quotation mark. -/
def scanValue (quote : Char) (offset : Nat) : List Char → Except Stop (List Char × Cursor)
  | [] => .error .unclosed
  | d :: rest =>
    if d = quote then .ok ([], ⟨rest, offset + 1⟩)
    else if d = '<' then .error (.invalid offset)
    else if !isText d then refuseText ⟨d :: rest, offset⟩
    else do
      if d = '&' then
        let _ ← scanReference ⟨rest, offset + 1⟩
      let (value, c) ← scanValue quote (offset + 1) rest
      return (d :: value, c)

def scanAttribute (c : Cursor) : Except Stop (RawAttribute × Cursor) := do
  let (name, afterName) ← scanQName c
  let afterEquals ← expect '=' afterName.skipSpace
  let opening := afterEquals.skipSpace
  match opening.rest with
  | q :: rest =>
    if q ≠ '"' && q ≠ '\'' then refuse opening
    let (value, c') ← scanValue q (opening.offset + 1) rest
    return (⟨name, c.offset, value, opening.offset + 1⟩, c')
  | [] => throw .unclosed

/-- A start tag as it is written; an empty one has no end tag. -/
structure RawTag where
  name : QName
  attributes : List RawAttribute
  isEmpty : Bool

/-- The attributes of a start tag and its end, `fuel` bounding their number. -/
def scanAttributes : Nat → Cursor → Except Stop ((List RawAttribute × Bool) × Cursor)
  | 0, _ => .error .unclosed
  | fuel + 1, c => do
    let next := c.skipSpace
    match next.peek? with
    | some '>' => return (([], false), next.advance 1)
    | some '/' => return (([], true), ← expect '>' (next.advance 1))
    | _ =>
      if next.offset = c.offset then refuse c
      let (a, c) ← scanAttribute next
      let ((more, isEmpty), c) ← scanAttributes fuel c
      return ((a :: more, isEmpty), c)

/-- A start tag from behind its `<` on. -/
def scanStartTag (c : Cursor) : Except Stop (RawTag × Cursor) := do
  let (name, c) ← scanQName c
  let ((attributes, isEmpty), c) ← scanAttributes (c.rest.length + 1) c
  return (⟨name, attributes, isEmpty⟩, c)

/-- The name in an end tag, from behind its `</` on. -/
def scanEndTag (c : Cursor) : Except Stop (List Char × Cursor) := do
  let (first, _) ← scanName c
  let name := first ++ (c.rest.drop first.length).takeWhile fun d => isNameChar d || d = ':'
  let c ← expect '>' (c.advance name.length).skipSpace
  return (name, c)

/-- A comment from behind its first two dashes on. -/
def skipComment (offset : Nat) : List Char → Except Stop Cursor
  | [] => .error .unclosed
  | d :: rest =>
    if !isText d then refuseText ⟨d :: rest, offset⟩
    else if d = '-' then
      match rest with
      | '-' :: '>' :: after => .ok ⟨after, offset + 3⟩
      | ['-'] => .error .unclosed
      | '-' :: _ => .error (.invalid (offset + 2))
      | _ => skipComment (offset + 1) rest
    else skipComment (offset + 1) rest

/-- A comment from behind `<!-` on. -/
def scanComment (c : Cursor) : Except Stop Cursor := do
  let c ← expect '-' c
  skipComment c.offset c.rest

/-- What an instruction holds, up to its end. -/
def skipInstruction (offset : Nat) : List Char → Except Stop Cursor
  | [] => .error .unclosed
  | d :: rest =>
    if !isText d then refuseText ⟨d :: rest, offset⟩
    else if d = '?' then
      match rest with
      | '>' :: after => .ok ⟨after, offset + 2⟩
      | _ => skipInstruction (offset + 1) rest
    else skipInstruction (offset + 1) rest

/-- An instruction from behind its `<?` on, with whether it is the declaration of a document. -/
def scanInstruction (c : Cursor) : Except Stop (Bool × Cursor) := do
  let (target, c) ← scanName c
  let isXml := target.map Char.toLower = "xml".toList
  match c.rest with
  | [] => throw .unclosed
  | d :: rest =>
    if !(isSpace d || d = '?') then refuse c
    if isXml && target ≠ "xml".toList then throw (.invalid c.offset)
    if d = '?' then return (isXml, ← expect '>' (c.advance 1))
    return (isXml, ← skipInstruction (c.offset + 1) rest)

end Intake.Xml
