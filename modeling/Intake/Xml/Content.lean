import Intake.Xml.Element
import Intake.Xml.PrologToken
import Intake.Xml.Scope

namespace Intake.Xml

/-- An element whose end tag is still to come. -/
structure OpenTag where
  name : List Char
  scope : Scope

/-- How far the content of a document has been read: open elements, the pieces read, the last one
first, and how much entities have added. -/
structure Progress where
  tags : List OpenTag
  pieces : List Element.Piece
  added : Nat

namespace Progress

def scope (p : Progress) : Scope := (p.tags.head?.map (·.scope)).getD Scope.outermost

def addText (p : Progress) (s : List Char) : Progress := { p with pieces := .text s :: p.pieces }

/-- After a start tag; that of an empty element closes it at once. -/
def addStart (p : Progress) (t : StartTag) (added : Nat) : Progress :=
  let started := Element.Piece.start t.localName t.attributes :: p.pieces
  if t.isEmpty then { p with pieces := .stop :: started, added }
  else ⟨⟨t.name, t.scope⟩ :: p.tags, started, added⟩

def addStop (p : Progress) : Progress := ⟨p.tags.drop 1, .stop :: p.pieces, p.added⟩

end Progress

namespace Content

/-- Characters that stand for themselves. -/
def isPlain (c : Char) : Bool := isText c && !"<&]\r".toList.contains c

/-- What a section holds, up to its end. -/
def scanSection (place : Option Nat) (offset : Nat) : List Char → Except Failure (List Char × Cursor)
  | [] => .error (.at .unclosedSection (place.getD offset))
  | c :: rest =>
    if c = cutMark then .error (.at .cutCharacter (place.getD offset))
    else if c = halfMark then .error (.at .unclosedSection (place.getD offset))
    else if !isText c then .error (.at .invalidToken (place.getD offset))
    else if c = ']' && "]>".toList.isPrefixOf rest then .ok ([], ⟨rest.drop 2, offset + 3⟩)
    else if (c = ']' && (rest.isEmpty || rest = [']'])) || (c = '\r' && rest.isEmpty) then
      .error (.at .unclosedSection (place.getD offset))
    else
      (scanSection place (offset + 1) rest).map fun (s, after) =>
        (if c = '\r' then (if rest.head? = some '\n' then s else '\n' :: s) else c :: s, after)

/-- A stop inside a token of content; within an entity it is shown at the reference. -/
def failure (place : Option Nat) (start : Nat) (stop : Stop) : Failure :=
  match place with
  | some home => (stop.failure start).within home
  | none => stop.failure start

def lift {α : Type} (place : Option Nat) (start : Nat) : Except Stop α → Except Failure α
  | .ok x => .ok x
  | .error stop => .error (failure place start stop)

/-- A start tag from behind its `<` on. -/
def readStart (d : Doctype) (place : Option Nat) (start : Nat) (p : Progress) (c : Cursor) :
    Except Failure (Progress × Cursor) := do
  let (raw, c) ← lift place start (scanStartTag c)
  let (t, added) ← StartTag.ofRaw d (place.getD start) place.isNone p.scope p.added raw
  return (p.addStart t added, c)

/-- An end tag from behind its `</` on; `base` elements were open where the text began. -/
def readStop (place : Option Nat) (base start : Nat) (p : Progress) (c : Cursor) :
    Except Failure (Progress × Cursor) := do
  let (name, after) ← lift place start (scanEndTag c)
  if p.tags.length = base then throw (.at .unbalancedEntity (place.getD start))
  if p.tags.head?.any fun t => t.name ≠ name then
    throw (.at .mismatchedTag (place.getD c.offset))
  return (p.addStop, after)

/-- Markup from behind its `<` on. -/
def readMarkup (d : Doctype) (place : Option Nat) (base start : Nat) (p : Progress) (c : Cursor) :
    Except Failure (Progress × Cursor) := do
  match c.peek? with
  | some '/' => readStop place base start p (c.advance 1)
  | some '?' =>
    let (isXml, c) ← lift place start (scanInstruction (c.advance 1))
    if isXml then throw (.at .misplacedDeclaration (place.getD start))
    return (p, c)
  | some '!' =>
    let after := c.advance 1
    match after.peek? with
    | some '-' => return (p, ← lift place start (scanComment (after.advance 1)))
    | some '[' =>
      let opening := after.advance 1
      if opening.startsWith "CDATA[" then
        let (s, c) ← scanSection place (opening.offset + 6) (opening.rest.drop 6)
        return (p.addText s, c)
      else if opening.rest.length < 6 then throw (failure place start .unclosed)
      else
        let good := ((opening.rest.zip "CDATA[".toList).takeWhile fun x => x.1 = x.2).length
        throw (failure place start (.invalid (opening.offset + good)))
    | _ => lift place start (refuse after)
  | _ => readStart d place start p c

/-- Reads content up to the end of the element of the document, or up to the end of an entity's text.
`place` is the place of the reference to the entity, `base` the number of elements open before it, and
`opened` the names of the entities around. Entities are nested at most `depth` deep and `fuel` bounds the
number of tokens. -/
def read (d : Doctype) (base : Nat) (depth fuel : Nat) (place : Option Nat)
    (opened : List (List Char)) (p : Progress) (c : Cursor) : Except Failure (Progress × Cursor) :=
  match fuel with
  | 0 => .error (.at .unclosedToken c.offset)
  | fuel + 1 => do
    let here := place.getD c.offset
    match c.rest with
    | [] =>
      if base = 0 then throw (.at .noElement here)
      if p.tags.length ≠ base then throw (.at .unbalancedEntity here)
      return (p, c)
    | x :: rest =>
      if x = '<' then
        let (p, c) ← readMarkup d place base c.offset p (c.advance 1)
        if p.tags.isEmpty then return (p, c)
        read d base depth fuel place opened p c
      else if x = '&' then
        let (r, after) ← lift place c.offset (scanReference (c.advance 1))
        match r with
        | .character none => throw (.at .badCharacterNumber here)
        | .character (some v) => read d base depth fuel place opened (p.addText [v]) after
        | .entity name =>
          match predefined? name, d.entity? name with
          | some v, _ => read d base depth fuel place opened (p.addText [v]) after
          | none, none =>
            if d.isStrict then throw (.at .undefinedEntity here)
            throw (.unknownReference ('&' :: name ++ [';']) here)
          | none, some .external =>
            throw (.unknownReference ('&' :: name ++ [';']) here)
          | none, some .unparsed => throw (.at .binaryEntity here)
          | none, some (.internal text) =>
            if opened.contains name then throw (.at .recursiveEntity here)
            let added := p.added + Doctype.octetCount text
            if !Doctype.isTolerable here added then throw (.at .tooMuchExpansion here)
            match depth with
            | 0 => throw (.at .recursiveEntity here)
            | depth + 1 =>
              let (p, _) ← read d p.tags.length depth (text.length + 1) (some here)
                (name :: opened) { p with added } ⟨text, 0⟩
              read d base (depth + 1) fuel place opened p after
      else if x = '\r' then
        if rest.isEmpty && base = 0 then throw (.at .noElement here)
        let n := if rest.head? = some '\n' then 2 else 1
        read d base depth fuel place opened (p.addText ['\n']) (c.advance n)
      else if x = ']' then
        if "]>".toList.isPrefixOf rest then throw (.at .invalidToken (place.getD (c.offset + 2)))
        read d base depth fuel place opened (p.addText [x]) (c.advance 1)
      else if !isText x then lift place c.offset (refuseText c)
      else
        let run := c.rest.takeWhile isPlain
        read d base depth fuel place opened (p.addText run) (c.advance run.length)
termination_by (depth, fuel)

end Content

end Intake.Xml
