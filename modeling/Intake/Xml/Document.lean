import Intake.Xml.Content
import Intake.Xml.Declaration
import Intake.Xml.Encoding
import Intake.Xml.Subset

namespace Intake.Xml

/-- What is known of a document while its beginning is read: all its characters, its encoding, and the
declarations read so far. -/
structure Opening where
  characters : List Char
  encoding : Encoding
  doctype : Option Doctype
  isStandalone : Bool

/-- A reading that may fail at a place in some characters. -/
structure DocumentReading where
  characters : List Char
  result : Except Failure Element

/-- The byte order mark. -/
def byteOrderMark : Char := '\ufeff'

namespace Opening

/-- The characters of a document from a place on, read anew from their octets in another encoding. -/
def reread (o : Opening) (e : Encoding) (data : List UInt8) (offset : Nat) : Opening :=
  if o.encoding.isWide then o
  else
    let before := o.characters.take offset
    { o with
      characters := before ++ e.decode (data.drop (Doctype.octetCount before))
      encoding := e }

/-- Takes in what the declaration of a document says, which stands between two places. -/
def declare (o : Opening) (data : List UInt8) (start : Nat) (c : Cursor) :
    Except Failure (Opening × Cursor) := do
  let inner := (o.characters.drop (start + 5)).take (c.offset - start - 7)
  match Declaration.read ⟨inner, start + 5⟩ with
  | .error offset => throw (.at .badDeclaration offset)
  | .ok declaration =>
    let o := { o with isStandalone := declaration.isStandalone }
    match declaration.encoding with
    | none => return (o, c)
    | some (name, offset) =>
      let e ← Encoding.declared o.encoding name offset
      let o := o.reread e data c.offset
      return (o, ⟨o.characters.drop c.offset, c.offset⟩)

/-- Reads what stands before the element of the document. -/
def read (data : List UInt8) (isFirst : Bool) : Nat → Opening → Cursor →
    Opening × Except Failure Cursor
  | 0, o, c => (o, .error (.at .noElement c.offset))
  | fuel + 1, o, c =>
    match Placed.next c with
    | .error f => (o, .error f)
    | .ok (t, after) =>
      match t.token with
      | .element => (o, .ok after)
      | .comment | .instruction => read data false fuel o after
      | .xmlDeclaration =>
        if isFirst && t.offset = c.offset then
          match o.declare data t.offset after with
          | .error f => (o, .error f)
          | .ok (o, after) => read data false fuel o after
        else (o, .error t.unexpected)
      | .declaration keyword =>
        if keyword = "DOCTYPE".toList && o.doctype.isNone then
          match Doctype.read o.isStandalone after with
          | .error f => (o, .error f)
          | .ok (d, after) => read data false fuel { o with doctype := some d } after
        else (o, .error t.unexpected)
      | _ => (o, .error t.unexpected)

end Opening

/-- After the element of a document only comments, instructions and white space follow. -/
def readEnd : Nat → Cursor → Except Failure Unit
  | 0, _ => .ok ()
  | fuel + 1, c => do
    match ← Placed.next? c with
    | (none, _) => return ()
    | (some t, after) =>
      match t.token with
      | .comment | .instruction => readEnd fuel after
      | _ => throw (.at .afterDocument t.offset)

/-- Reads a document from its octets. -/
def readDocument (data : List UInt8) : DocumentReading :=
  let encoding := Encoding.detect data
  let characters := encoding.decode data
  if Encoding.isUndecided data then ⟨characters, .error (.at .unclosedToken 0)⟩
  else
    let start := if characters.head? = some byteOrderMark then 1 else 0
    let (o, opened) := Opening.read data true (characters.length + 1) ⟨characters, encoding, none, false⟩
      ⟨characters.drop start, start⟩
    let result := do
      let c ← opened
      let d := o.doctype.getD (.empty o.isStandalone)
      let (p, c) ← Content.read d 0 (d.entities.length + 1) (c.rest.length + 1) none []
        ⟨[], [], 0⟩ c
      readEnd (c.rest.length + 1) c
      match Element.ofPieces [] p.pieces.reverse with
      | some e => return e
      | none => throw (.at .noElement c.offset)
    ⟨o.characters, result⟩

end Intake.Xml
