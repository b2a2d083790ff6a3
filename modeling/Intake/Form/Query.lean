import Intake.Coercion.Scalar
import Intake.Payload

namespace Intake.Form

def hexDigitValue? (c : Char) : Option Nat :=
  if '0' ≤ c && c ≤ '9' then some (c.toNat - 48)
  else if 'a' ≤ c && c ≤ 'f' then some (c.toNat - 87)
  else if 'A' ≤ c && c ≤ 'F' then some (c.toNat - 55)
  else none

/-- The octet that two characters write in base sixteen. -/
def hexOctet? : List Char → Option UInt8
  | a :: b :: _ => do return (16 * (← hexDigitValue? a) + (← hexDigitValue? b)).toUInt8
  | _ => none

/-- The octets of a stretch of ASCII, a percent sign and two digits standing for the octet they write. -/
def percentOctets : List Char → List UInt8
  | [] => []
  | c :: rest =>
    match (if c = '%' then hexOctet? rest else none) with
    | some b => b :: percentOctets (rest.drop 2)
    | none => c.toNat.toUInt8 :: percentOctets rest
termination_by s => s.length
decreasing_by all_goals simp only [List.length_drop, List.length_cons]; omega

def isAscii (c : Char) : Bool := c.toNat < 128

/-- Percent escapes undone in every stretch of ASCII; octets that are no UTF-8 are replaced. -/
def unescape : List Char → List Char
  | [] => []
  | c :: rest =>
    if isAscii c then
      Text.utf8Replacing (percentOctets (c :: rest.takeWhile isAscii)) ++
        unescape (rest.dropWhile isAscii)
    else c :: unescape rest
termination_by s => s.length
decreasing_by
  · have : (rest.dropWhile isAscii).length ≤ rest.length :=
      (List.dropWhile_sublist _).length_le
    simp only [List.length_cons]
    omega
  · simp

/-- A name or a value as it was before it was escaped, plus signs standing for blanks. -/
def unescapeField (s : List Char) : String :=
  String.ofList (unescape (s.map fun c => if c = '+' then ' ' else c))

/-- The pairs that a query writes, empty stretches between ampersands left out. -/
def readQuery (s : List Char) : List (String × String) :=
  ((Text.splitOn '&' s).filter (!·.isEmpty)).map fun field =>
    let (name, value) := Text.splitFirst '=' field
    (unescapeField name, unescapeField value)

/-- Characters that are written as they are. -/
def isSafe (c : Char) : Bool :=
  c.isAlphanum || c = '_' || c = '.' || c = '-' || c = '~'

def upperHex (n : Nat) : Char := "0123456789ABCDEF".toList.getD n '0'

def percent (b : UInt8) : List Char := ['%', upperHex (b.toNat / 16), upperHex (b.toNat % 16)]

def escapeChar (c : Char) : List Char :=
  if isSafe c then [c]
  else if c = ' ' then ['+']
  else c.toString.toUTF8.toList.flatMap percent

def escape (s : List Char) : List Char := s.flatMap escapeChar

/-- A scalar as it is written in a query. -/
def scalarText : Value → String
  | .null => "null"
  | .bool b => if b then "true" else "false"
  | v => v.display

mutual

/-- The pairs of a value under a name: a map gives those of its entries, a list one for each member. -/
def flatten (name : String) : Value → List (String × String)
  | .map entries => flattenEntries name entries
  | .list items => items.map fun v => (name ++ "[]", scalarText v)
  | .tuple items => items.map fun v => (name ++ "[]", scalarText v)
  | v => [(name, scalarText v)]

def flattenEntries (name : String) : List (String × Value) → List (String × String)
  | [] => []
  | (key, v) :: rest =>
    flatten (if name = "" then key else name ++ "[" ++ key ++ "]") v ++ flattenEntries name rest

end

/-- Pairs as a query; half of a surrogate pair cannot be written. -/
def writeQuery (pairs : List (String × String)) : Except Fault String :=
  if pairs.any fun p => Text.hasSurrogate p.1.toList || Text.hasSurrogate p.2.toList then
    .error .notEncodable
  else
    .ok (String.ofList (List.intercalate ['&']
      (pairs.map fun p => escape p.1.toList ++ '=' :: escape p.2.toList)))

/-- A map as a query, its names put after a common beginning. -/
def toQuery (beginning : String) (data : Table Value) : Except Fault String :=
  writeQuery (flattenEntries beginning data)

end Intake.Form
