import Intake.Charset
import Intake.Xml.Problem
import Intake.Xml.Token

namespace Intake.Xml

/-- How the characters of a document are read from octets. A table gives each octet its character. -/
inductive Encoding where
  | utf8
  | utf16 (isBig : Bool)
  | latin1
  | ascii
  | table (characters : List (Option Char))

namespace Encoding

/-- Encodings of one octet for a character of ASCII are told apart by a declaration, and those of two
are not. -/
def isWide : Encoding → Bool
  | .utf16 _ => true
  | _ => false

/-- How many octets a leading octet of UTF-8 asks for. -/
def sequenceLength (b : UInt8) : Nat :=
  if b < 0xC0 then 1 else if b < 0xE0 then 2 else if b < 0xF0 then 3 else if b < 0xF5 then 4 else 1

/-- A character that has been read, not to be taken for a mark. -/
def textOr (c : Char) : Char := if c = cutMark || c = halfMark then badMark else c

/-- Octets in UTF-8. What is no character is marked, and so is a character cut off at the end. -/
def ofUtf8 : List UInt8 → List Char
  | [] => []
  | b :: rest =>
    if (rest.take 3).length + 1 < sequenceLength b then [cutMark]
    else
      match Text.utf8Step b rest with
      | .ok (c, n) => textOr c :: ofUtf8 (rest.drop n)
      | .error _ => badMark :: ofUtf8 rest
termination_by bs => bs.length
decreasing_by all_goals simp only [List.length_drop, List.length_cons]; omega

/-- Octets in pairs. -/
def ofUtf16 (isBig : Bool) : List UInt8 → List Char
  | [] => []
  | a :: rest =>
    if rest.isEmpty then [halfMark]
    else
      match Charset.utf16Step isBig a rest with
      | .ok (c, n) => textOr c :: ofUtf16 isBig (rest.drop n)
      | .error _ =>
        if Charset.isHigh (Charset.word isBig a (rest.head?.getD 0)) && rest.length < 3 then [cutMark]
        else badMark :: ofUtf16 isBig (rest.drop 1)
termination_by bs => bs.length
decreasing_by all_goals simp only [List.length_drop, List.length_cons]; omega

def ofTable (characters : List (Option Char)) (data : List UInt8) : List Char :=
  data.map fun b => ((characters[b.toNat]?).join.map textOr).getD badMark

/-- The characters that octets stand for. -/
def decode (e : Encoding) (data : List UInt8) : List Char :=
  match e with
  | .utf8 => ofUtf8 data
  | .utf16 isBig => ofUtf16 isBig data
  | .latin1 => data.map fun b => textOr (Char.ofNat b.toNat)
  | .ascii => data.map fun b => if b < 128 then textOr (Char.ofNat b.toNat) else badMark
  | .table characters => ofTable characters data

/-- The encoding that the first octets of a document show. -/
def detect : List UInt8 → Encoding
  | a :: b :: _ =>
    if a = 0xFE && b = 0xFF then .utf16 true
    else if a = 0xFF && b = 0xFE then .utf16 false
    else if a = 0 then .utf16 true
    else if b = 0 then .utf16 false
    else .utf8
  | _ => .utf8

/-- Whether a document breaks off inside what would show its encoding. -/
def isUndecided (data : List UInt8) : Bool :=
  match data with
  | [a] => a = 0xFE || a = 0xFF || a = 0xEF || a = 0 || a = 0x3C
  | [a, b] => a = 0xEF && b = 0xBB
  | _ => false

/-- The encodings with names of their own. -/
def byName? (name : String) : Option Encoding :=
  [("iso-8859-1", Encoding.latin1), ("us-ascii", .ascii), ("utf-8", .utf8), ("utf-16", .utf16 true),
    ("utf-16be", .utf16 true), ("utf-16le", .utf16 false)].lookup name

/-- Characters that markup is made of; an octet may stand for one only if it does so in ASCII. -/
def isMarkup (c : Char) : Bool :=
  isText c && c.toNat < 127 && !"$@\\^\x60\x7b\x7d~".toList.contains c

/-- What each octet stands for in a charset of one octet a character. -/
def octetTable (c : Charset) : Except Failure (List (Option Char)) :=
  let all := (List.range 256).map fun n => n.toUInt8
  match c with
  | .utf8 | .utf8Signed | .ascii =>
    .ok (all.map fun b => if b < 128 then some (Char.ofNat b.toNat) else none)
  | .latin1 => .ok (all.map fun b => some (Char.ofNat b.toNat))
  | .table t => .ok (all.map t.charAt?)
  | _ => .error .severalOctets

/-- Octets for markup stand for what they stand for in ASCII, and no others do. -/
def isCompatible (characters : List (Option Char)) : Bool :=
  (characters.zip (List.range 256)).all fun (c, n) =>
    (n ≥ 128 || !isMarkup (Char.ofNat n) || c = some (Char.ofNat n)) &&
      match c with
      | some d => !(d.toNat < 128 && isMarkup d) || d.toNat = n
      | none => true

/-- The encoding that a declaration names, read at an offset, in a document that has been read in another
so far. -/
def declared (now : Encoding) (name : List Char) (offset : Nat) : Except Failure Encoding :=
  match now, byName? (String.ofList (name.map Char.toLower)) with
  | .utf16 isBig, some (.utf16 named) =>
    if named = isBig || name.map Char.toLower = "utf-16".toList then .ok now
    else .error (.at .wrongEncoding offset)
  | now, some e =>
    if now.isWide || e.isWide then .error (.at .wrongEncoding offset) else .ok e
  | _, none =>
    match Charset.ofName (String.ofList name) with
    | .error problem => .error (.encoding problem)
    | .ok charset => do
      let characters ← octetTable charset
      if isCompatible characters then return .table characters
      throw (.at .unknownEncoding offset)

end Encoding

end Intake.Xml
