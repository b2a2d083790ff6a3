import Intake.Text.Latin1

namespace Intake.Multipart

/-- Why a message cannot be taken apart. -/
inductive Problem where
  | wrongBoundary (expected found : UInt8) (index : Nat)
  | noReturnAfterBoundary (position : Nat)
  | noBreakAfterBoundary (position : Nat)
  | noDashAfterBoundary (position : Nat)
  | emptyHeaderName (position : Nat)
  | badHeaderOctet (octet : UInt8) (position : Nat)
  | noBreakAfterHeader (octet : UInt8)
  | noBreakAfterHeaders (octet : UInt8)
  | headerTooLong
  | tooManyHeaders
  deriving DecidableEq, Repr

def Problem.message : Problem → String
  | .wrongBoundary expected found index =>
    "Expected boundary character " ++ toString expected.toNat ++ ", got " ++ toString found.toNat ++
      " at index " ++ toString index
  | .noReturnAfterBoundary position => "Did not find CR at end of boundary (" ++ toString position ++ ")"
  | .noBreakAfterBoundary position => "Did not find LF at end of boundary (" ++ toString position ++ ")"
  | .noDashAfterBoundary position => "Did not find - at end of boundary (" ++ toString position ++ ")"
  | .emptyHeaderName position => "Found 0-length header at " ++ toString position
  | .badHeaderOctet octet position =>
    "Found invalid character " ++ toString octet.toNat ++ " in header at " ++ toString position
  | .noBreakAfterHeader octet =>
    "Did not find LF character at end of header (found " ++ toString octet.toNat ++ ")"
  | .noBreakAfterHeaders octet =>
    "Did not find LF at end of headers (found " ++ toString octet.toNat ++ ")"
  | .headerTooLong => "Maximum header size exceeded"
  | .tooManyHeaders => "Maximum header count exceeded"

/-- One part: its header fields in order, and its content. -/
structure Part where
  headers : List (List UInt8 × List UInt8)
  content : List UInt8

/-- How a message ends: with the closing boundary, before it, perhaps inside the content of a part, or
at octets that no message can have there. -/
inductive Ending where
  | closed
  | cut (unfinished : Option Part)
  | malformed (problem : Problem)

structure Message where
  parts : List Part
  ending : Ending

/-- Why reading stops before a part is whole. -/
inductive Stop where
  | outOfData
  | failed (problem : Problem)

def Stop.ending : Stop → Ending
  | .outOfData => .cut none
  | .failed problem => .malformed problem

/-- What is left of a message, and how many octets stand before it. -/
structure Cursor where
  rest : List UInt8
  position : Nat

def Cursor.advance (c : Cursor) (n : Nat) : Cursor := ⟨c.rest.drop n, c.position + n⟩

abbrev Read (α : Type) := Except Stop (α × Cursor)

def cr : UInt8 := 13
def lf : UInt8 := 10
def dash : UInt8 := 45
def colon : UInt8 := 58
def space : UInt8 := 32

def fail {α : Type} (p : Problem) : Read α := .error (.failed p)

/-- The octets of the first boundary, compared one by one from an index on. -/
def readBoundary (index : Nat) : List UInt8 → Cursor → Read Unit
  | [], c => .ok ((), c)
  | b :: more, c =>
    match c.rest with
    | [] => .error .outOfData
    | d :: rest =>
      if d = b then readBoundary (index + 1) more ⟨rest, c.position + 1⟩
      else fail (.wrongBoundary b d index)

/-- What follows the first boundary: a line break, or two dashes that close the message. -/
def readBoundaryEnd (c : Cursor) : Read Bool :=
  match c.rest with
  | [] => .error .outOfData
  | a :: rest =>
    if a = dash then
      match rest with
      | [] => .error .outOfData
      | b :: rest =>
        if b = dash then .ok (true, ⟨rest, c.position + 2⟩)
        else fail (.noDashAfterBoundary (c.position + 1))
    else if a = cr then
      match rest with
      | [] => .error .outOfData
      | b :: rest =>
        if b = lf then .ok (false, ⟨rest, c.position + 2⟩)
        else fail (.noBreakAfterBoundary (c.position + 1))
    else fail (.noReturnAfterBoundary c.position)

/-- Octets of a header field's name. -/
def isToken (b : UInt8) : Bool :=
  let c := Char.ofNat b.toNat
  c.isAlphanum || "!#$%&'*+-.^_|~".toList.contains c || b = 0x60

/-- A header field may not be longer than this. -/
def maxHeaderSize : Nat := 4096

/-- A part may not have more header fields than this. -/
def maxHeaderCount : Nat := 8

/-- A header field's name up to the colon; `size` counts the octets of the field before. -/
def readName (size position : Nat) : List UInt8 → Read (List UInt8)
  | [] => .error .outOfData
  | b :: rest =>
    if maxHeaderSize < size + 1 then fail .headerTooLong
    else if b = colon then
      if size = 0 then fail (.emptyHeaderName position) else .ok ([], ⟨rest, position + 1⟩)
    else if isToken b then (readName (size + 1) (position + 1) rest).map fun (name, c) => (b :: name, c)
    else fail (.badHeaderOctet b position)

/-- A header field's value up to the end of its line. -/
def readFieldValue (size position : Nat) : List UInt8 → Read (List UInt8)
  | [] => .error .outOfData
  | b :: rest =>
    if b = cr then
      match rest with
      | [] => .error .outOfData
      | d :: rest => if d = lf then .ok ([], ⟨rest, position + 2⟩) else fail (.noBreakAfterHeader d)
    else if maxHeaderSize < size + 1 then fail .headerTooLong
    else (readFieldValue (size + 1) (position + 1) rest).map fun (v, c) => (b :: v, c)

/-- A header field; spaces before its value are left out. -/
def readField (c : Cursor) : Except Stop ((List UInt8 × List UInt8) × Cursor) := do
  let (name, c') ← readName 0 c.position c.rest
  let c' := c'.advance (c'.rest.takeWhile (· = space)).length
  let (v, c') ← readFieldValue (name.length + 1) c'.position c'.rest
  return ((name, v), c')

/-- The header fields up to the empty line after them, of which `left` more are allowed. -/
def readFields : Nat → Cursor → Except Stop (List (List UInt8 × List UInt8) × Cursor)
  | left, c =>
    match c.rest with
    | [] => .error .outOfData
    | b :: rest =>
      if b = cr then
        match rest with
        | [] => .error .outOfData
        | d :: rest =>
          if d = lf then .ok ([], ⟨rest, c.position + 2⟩) else fail (.noBreakAfterHeaders d)
      else
        match left with
        | 0 => fail .tooManyHeaders
        | left + 1 => do
          let (field, c') ← readField c
          let (fields, c') ← readFields left c'
          return (field :: fields, c')

/-- Whether octets start with a delimiter and two octets that may follow it, and then whether it is the
last one. -/
def delimiter? (delimiter data : List UInt8) : Option Bool :=
  if delimiter.isPrefixOf data then
    match data.drop delimiter.length with
    | a :: b :: _ =>
      if a = cr && b = lf then some false else if a = dash && b = dash then some true else none
    | _ => none
  else none

/-- The content before the first delimiter, what follows it, and whether that delimiter is the last.
After octets that look like a delimiter and are none, the search goes on behind them. -/
def readContent (delimiter : List UInt8) : Nat → List UInt8 → List UInt8 × Option (Bool × List UInt8)
  | _, [] => ([], none)
  | skipped, b :: rest =>
    let isStart := skipped = 0 && delimiter.isPrefixOf (b :: rest)
    match (if isStart then delimiter? delimiter (b :: rest) else none) with
    | some isLast => ([], some (isLast, (b :: rest).drop (delimiter.length + 2)))
    | none =>
      let (content, found) :=
        readContent delimiter (if isStart then delimiter.length - 1 else skipped - 1) rest
      (b :: content, found)

/-- The parts from the header fields of one of them on; `fuel` bounds their number. -/
def readParts (delimiter : List UInt8) : Nat → Cursor → Message
  | 0, _ => ⟨[], .cut none⟩
  | fuel + 1, c =>
    match readFields maxHeaderCount c with
    | .error stop => ⟨[], stop.ending⟩
    | .ok (headers, c) =>
      let (content, found) := readContent delimiter 0 c.rest
      let part : Part := ⟨headers, content⟩
      match found with
      | none => ⟨[], .cut (some part)⟩
      | some (true, _) => ⟨[part], .closed⟩
      | some (false, rest) =>
        let m := readParts delimiter fuel ⟨rest, c.position + content.length + delimiter.length + 2⟩
        ⟨part :: m.parts, m.ending⟩

def isBreak (b : UInt8) : Bool := b = cr || b = lf

/-- Takes a message apart at its boundary. Line breaks before the first boundary are skipped. -/
def Message.read (boundary data : List UInt8) : Message :=
  let skipped := (data.takeWhile isBreak).length
  let opened : Except Stop (Bool × Cursor) := do
    let (_, c) ← readBoundary 2 (dash :: dash :: boundary) ⟨data.drop skipped, skipped⟩
    readBoundaryEnd c
  match opened with
  | .error stop => ⟨[], stop.ending⟩
  | .ok (true, _) => ⟨[], .closed⟩
  | .ok (false, c) => readParts (cr :: lf :: dash :: dash :: boundary) data.length c

end Intake.Multipart
