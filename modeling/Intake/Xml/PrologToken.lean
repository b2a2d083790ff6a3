import Intake.Xml.Problem
import Intake.Xml.Token

namespace Intake.Xml

/-- A token outside the document element. -/
inductive PrologToken where
  | name (s : List Char)
  | prefixedName (s : List Char)
  | nameToken (s : List Char)
  | countedName
  | literal (s : List Char)
  | openBracket
  | closeBracket
  | closeSection
  | openParen
  | closeParen (mark : Option Char)
  | comma
  | bar
  | close
  | declaration (keyword : List Char)
  | openSection
  | poundName (s : List Char)
  | percent
  | parameterReference
  | comment
  | instruction
  | xmlDeclaration
  | element
  deriving DecidableEq, Repr

namespace PrologToken

def isCount (c : Char) : Bool := c = '?' || c = '*' || c = '+'

/-- Whether what has been read ends here: at the end of the text, at white space or at one of some marks. -/
def endsAt (marks : String) (c : Cursor) : Bool :=
  match c.rest with
  | [] => true
  | d :: _ => isSpace d || d = halfMark || marks.toList.contains d

/-- A run of characters of names and colons, by what kind of name it makes. -/
def ofWord (s : List Char) : PrologToken :=
  if !s.head?.any isNameStart then .nameToken s
  else
    match (s.dropWhile (· ≠ ':')) with
    | [] => .name s
    | _ :: more => if more.isEmpty || more.contains ':' then .nameToken s else .prefixedName s

def scanWord (c : Cursor) : Except Stop (PrologToken × Cursor) := do
  let word := c.rest.takeWhile fun d => isNameChar d || d = ':'
  if word.isEmpty then refuseText c
  let c := c.advance word.length
  let token := ofWord word
  if endsAt ">),|[%" c then return (token, c)
  match token, c.peek? with
  | .nameToken _, _ => refuseText c
  | _, some d => if isCount d then return (.countedName, c.advance 1) else refuseText c
  | _, none => refuse c

/-- A literal from behind its quotation mark on. -/
def scanLiteral (quote : Char) (offset : Nat) : List Char → Except Stop (List Char × Cursor)
  | [] => .error .unclosed
  | d :: rest =>
    if d = quote then
      if endsAt ">%[" ⟨rest, offset + 1⟩ then .ok ([], ⟨rest, offset + 1⟩)
      else .error (.invalid (offset + 1))
    else if !isText d then refuseText ⟨d :: rest, offset⟩
    else (scanLiteral quote (offset + 1) rest).map fun (s, c) => (d :: s, c)

/-- What starts with `<!`, from behind that on. -/
def scanDeclaration (c : Cursor) : Except Stop (PrologToken × Cursor) := do
  match c.peek? with
  | some '-' => return (.comment, ← scanComment (c.advance 1))
  | some '[' => return (.openSection, c.advance 1)
  | _ =>
    let keyword := c.rest.takeWhile fun d => d.isAlpha || d = '_'
    if keyword.isEmpty then refuse c
    let after := c.advance keyword.length
    match after.rest with
    | [] => throw .unclosed
    | '%' :: rest =>
      match rest with
      | [] => throw .unclosed
      | d :: _ =>
        if isSpace d || d = '%' then throw (.invalid after.offset)
        return (.declaration keyword, after)
    | d :: _ => if isSpace d then return (.declaration keyword, after) else refuse after

def scanPercent (c : Cursor) : Except Stop (PrologToken × Cursor) := do
  if c.rest.head?.any fun d => isSpace d || d = '%' then return (.percent, c)
  let (_, c) ← scanName c
  let c ← expect ';' c
  return (.parameterReference, c)

def scanPound (c : Cursor) : Except Stop (PrologToken × Cursor) := do
  let (word, c) ← scanName c
  if endsAt ")>%|" c then return (.poundName word, c) else refuse c

def scanCloseParen (c : Cursor) : Except Stop (PrologToken × Cursor) :=
  match c.peek? with
  | some d =>
    if isCount d then .ok (.closeParen (some d), c.advance 1)
    else if endsAt ">,|)" c then .ok (.closeParen none, c)
    else refuse c
  | none => .ok (.closeParen none, c)

/-- The token that starts at a cursor. -/
def scan (c : Cursor) : Except Stop (PrologToken × Cursor) := do
  let after := c.advance 1
  let single (t : PrologToken) : Except Stop (PrologToken × Cursor) := .ok (t, after)
  match c.peek? with
  | some '"' => return (← scanLiteral '"' after.offset after.rest).map .literal id
  | some '\'' => return (← scanLiteral '\'' after.offset after.rest).map .literal id
  | some '<' =>
    match after.peek? with
    | some '!' => scanDeclaration (after.advance 1)
    | some '?' =>
      let (isXml, c) ← scanInstruction (after.advance 1)
      return (if isXml then .xmlDeclaration else .instruction, c)
    | some d =>
      if isNameStart d || (128 ≤ d.toNat && d ≠ badMark) then return (.element, c) else refuse after
    | none => refuse after
  | some '%' => scanPercent after
  | some ',' => single .comma
  | some '[' => single .openBracket
  | some ']' =>
    if after.startsWith "]>" then return (.closeSection, after.advance 2)
    if after.rest = [']'] then throw .unclosed
    single .closeBracket
  | some '(' => single .openParen
  | some ')' => scanCloseParen after
  | some '|' => single .bar
  | some '>' => single .close
  | some '#' => scanPound after
  | _ => scanWord c

end PrologToken

/-- A stop inside a token, as the failure that it is. -/
def Stop.failure (start : Nat) : Stop → Failure
  | .invalid offset => .at .invalidToken offset
  | .unclosed => .at .unclosedToken start
  | .cut => .at .cutCharacter start

/-- A token and where it starts. -/
structure Placed where
  token : PrologToken
  offset : Nat

namespace Placed

/-- The failure of a token that cannot stand where it does. -/
def unexpected (t : Placed) : Failure :=
  match t.token with
  | .parameterReference => .at .parameterReference t.offset
  | .xmlDeclaration => .at .misplacedDeclaration t.offset
  | _ => .at .notGrammatical t.offset

/-- The next token that is not white space, unless the text has come to its end. -/
def next? (c : Cursor) : Except Failure (Option Placed × Cursor) :=
  let start := c.skipSpace
  if start.rest.isEmpty then .ok (none, start)
  else
    match PrologToken.scan start with
    | .ok (t, c) => .ok (some ⟨t, start.offset⟩, c)
    | .error stop => .error (stop.failure start.offset)

/-- The next token that is not white space; there has to be one. -/
def next (c : Cursor) : Except Failure (Placed × Cursor) := do
  match ← next? c with
  | (some t, c) => return (t, c)
  | (none, c) => throw (.at .noElement c.offset)

end Placed

end Intake.Xml
