import Intake.Xml.Token

namespace Intake.Xml

/-- What the declaration at the start of a document says. -/
structure Declaration where
  encoding : Option (List Char × Nat)
  isStandalone : Bool

/-- A name and its value in a declaration, with the offsets of both. -/
structure Setting where
  name : List Char
  nameOffset : Nat
  value : List Char
  valueOffset : Nat

namespace Declaration

def isNameEnd (c : Char) : Bool := c = '=' || isSpace c || 128 ≤ c.toNat

def isValueChar (c : Char) : Bool := c.isAlphanum || c = '.' || c = '-' || c = '_'

/-- The next setting, unless there is none; else the offset where one goes wrong. -/
def setting? (c : Cursor) : Except Nat (Option Setting × Cursor) :=
  if c.rest.isEmpty then .ok (none, c)
  else if !c.rest.head?.any isSpace then .error c.offset
  else
    let start := c.skipSpace
    if start.rest.isEmpty then .ok (none, c)
    else
      let name := start.rest.takeWhile fun d => !isNameEnd d
      let equals := (start.advance name.length).skipSpace
      if equals.peek? ≠ some '=' || name.isEmpty then .error equals.offset
      else
        let opening := (equals.advance 1).skipSpace
        match opening.rest with
        | q :: rest =>
          if q = '"' || q = '\'' then
            let value := rest.takeWhile isValueChar
            let closing := opening.advance (1 + value.length)
            if closing.peek? = some q then
              .ok (some ⟨name, start.offset, value, opening.offset + 1⟩, closing.advance 1)
            else .error closing.offset
          else .error opening.offset
        | [] => .error opening.offset

/-- Whether the document stands alone, read from its setting and what follows. -/
def readStandalone (s : Setting) (c : Cursor) : Except Nat Bool :=
  if s.name ≠ "standalone".toList then .error s.nameOffset
  else if s.value ≠ "yes".toList && s.value ≠ "no".toList then .error s.valueOffset
  else if c.skipSpace.rest.isEmpty then .ok (s.value = "yes".toList)
  else .error c.skipSpace.offset

/-- The settings after the version. -/
def afterVersion (c : Cursor) : Except Nat Declaration := do
  match ← setting? c with
  | (none, _) => return ⟨none, false⟩
  | (some s, c) =>
    if s.name = "encoding".toList then
      if !s.value.head?.any Char.isAlpha then throw s.valueOffset
      let encoding := some (s.value, s.valueOffset)
      match ← setting? c with
      | (none, _) => return ⟨encoding, false⟩
      | (some s, c) => return ⟨encoding, ← readStandalone s c⟩
    else return ⟨none, ← readStandalone s c⟩

/-- Reads what stands between `<?xml` and `?>`; else the offset where it goes wrong. -/
def read (c : Cursor) : Except Nat Declaration := do
  match ← setting? c with
  | (none, c) => throw c.offset
  | (some s, c) => if s.name = "version".toList then afterVersion c else throw s.nameOffset

end Declaration

end Intake.Xml
