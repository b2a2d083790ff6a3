import Intake.Calendar.Iso
import Intake.Calendar.Layout
import Intake.Text.Case
import Intake.Value

namespace Intake.Coercion

def trimmed (s : String) : List Char := Text.trim s.toList

/-- The text of a scalar. -/
def toText? : Value → Option String
  | .text s => some s
  | .bool b => some (if b then "true" else "false")
  | .int n => some (String.ofList (Value.intText n))
  | .float x => some x.text
  | .uuid u => some u.text
  | .moment m => some m.iso
  | .date d => some d.iso
  | _ => none

def int64Low : Int := -9223372036854775808
def int64High : Int := 9223372036854775807
def int32Low : Int := -2147483648
def int32High : Int := 2147483647

def within? (low high n : Int) : Option Int := if low ≤ n ∧ n ≤ high then some n else none

/-- A sign, if there is one, and what follows it. -/
def splitSign : List Char → Bool × List Char
  | '+' :: rest => (false, rest)
  | '-' :: rest => (true, rest)
  | s => (false, s)

/-- The integer that an optional sign and digits write. -/
def readInt? (s : List Char) : Option Int :=
  let (negative, ds) := splitSign s
  if ds.isEmpty || !ds.all Text.isDigit then none
  else
    let n : Int := Text.digitsValue ds
    some (if negative then -n else n)

/-- Longer texts of an integer are not read. -/
def maxIntText : Nat := 20

def toInt? (low high : Int) : Value → Option Int
  | .int n => within? low high n
  | .float x => x.toInt?.bind (within? low high)
  | .text s =>
    let t := trimmed s
    if maxIntText < t.length then none else (readInt? t).bind (within? low high)
  | _ => none

/-- The exponent that a number ends with, zero when there is none. -/
def readExponent? : List Char → Option Int
  | [] => some 0
  | e :: rest => if e = 'e' || e = 'E' then readInt? rest else none

/-- The number that a sign, digits around an optional point and an optional exponent write. -/
def readFloat? (s : List Char) : Option Binary64 := do
  let (negative, body) := splitSign s
  let whole := body.takeWhile Text.isDigit
  let afterWhole := body.drop whole.length
  let (fraction, rest) := match afterWhole with
    | '.' :: r =>
      let ds := r.takeWhile Text.isDigit
      (ds, r.drop ds.length)
    | r => ([], r)
  if whole.isEmpty && fraction.isEmpty then none
  let exponent ← readExponent? rest
  some (Binary64.ofDecimal negative (Text.digitsValue (whole ++ fraction))
    (exponent - (fraction.length : Int)))

def toFloat? : Value → Option Binary64
  | .float x => some x
  | .int n => Binary64.ofInt? n
  | .text s => (readFloat? (trimmed s)).bind fun x => if x.isInfinite then none else some x
  | _ => none

def trueWords : List String := ["true", "1", "yes", "y", "on", "t", "enabled", "active"]

def falseWords : List String := ["false", "0", "no", "n", "off", "f", "disabled", "inactive"]

def numberToBool? (n : Number) : Option Bool :=
  if n.equal (.int 1) then some true else if n.equal (.int 0) then some false else none

def toBool? : Value → Option Bool
  | .bool b => some b
  | .int n => numberToBool? (.int n)
  | .float x => numberToBool? (.float x)
  | .text s =>
    let word := String.ofList (Text.lower (trimmed s))
    if trueWords.contains word then some true
    else if falseWords.contains word then some false
    else none
  | _ => none

open Calendar (Piece) in
/-- The layouts of a moment in order of preference, and whether one names universal time. -/
def momentLayouts : List (List Piece × Bool) :=
  let dashed : List Piece := [.year, .mark '-', .month, .mark '-', .day]
  let clock : List Piece := [.hour, .mark ':', .minute, .mark ':', .second]
  let joined := dashed ++ .letter 't' :: clock
  let spaced := dashed ++ .blanks :: clock
  let dayFirst (c : Char) : List Piece := [.day, .mark c, .month, .mark c, .year]
  let monthFirst (c : Char) : List Piece := [.month, .mark c, .day, .mark c, .year]
  [ (joined ++ [.mark '.', .fraction, .letter 'z'], true),
    (joined ++ [.mark '.', .fraction, .offset], false),
    (joined ++ [.offset], false),
    (joined ++ [.letter 'z'], true),
    (spaced, false),
    (spaced ++ [.blanks, .offset], false),
    (spaced ++ [.mark '.', .fraction], false),
    ([.year, .mark '/', .month, .mark '/', .day, .blanks] ++ clock, false),
    (dayFirst '/' ++ .blanks :: clock, false),
    (monthFirst '/' ++ .blanks :: clock, false),
    (dashed, false),
    (dayFirst '-', false),
    (monthFirst '-', false),
    (dayFirst '/', false),
    (monthFirst '/', false) ]

def readMomentLayouts? (s : List Char) : Option Moment :=
  momentLayouts.findSome? fun (layout, isUtc) =>
    (Calendar.readLayout? layout s).map fun m =>
      if isUtc then { m with offset := some Offset.utc } else m

/-- A text with each `Z` written as a zero offset. -/
def spellUtc (s : List Char) : List Char :=
  s.flatMap fun c => if c = 'Z' then "+00:00".toList else [c]

/-- The moment that a text writes in one of the layouts or in a form of the standard. -/
def readMoment? (s : List Char) : Option Moment :=
  if s.isEmpty then none
  else match readMomentLayouts? s with
    | some m => some m
    | none => Calendar.Iso.moment? (String.ofList (spellUtc s))

def inUtc (m : Moment) : Moment :=
  match m.offset with
  | some _ => m
  | none => { m with offset := some Offset.utc }

/-- The moment that a value stands for; one that names no offset is in universal time. -/
def toMoment? : Value → Option Moment
  | .moment m => some (inUtc m)
  | .date d => some ⟨d, TimeOfDay.midnight, some Offset.utc⟩
  | .int n => Moment.ofEpochSeconds? n
  | .text s => (readMoment? (trimmed s)).map inUtc
  | _ => none

def isHexDigit (c : Char) : Bool :=
  ('0' ≤ c && c ≤ '9') || ('a' ≤ c && c ≤ 'f') || ('A' ≤ c && c ≤ 'F')

/-- Hexadecimal digits in groups of the given sizes with dashes between. -/
def isHexGroups : List Nat → List Char → Bool
  | [], s => s.isEmpty
  | [n], s => s.length = n && s.all isHexDigit
  | n :: sizes, s =>
    let group := s.take n
    group.length = n && group.all isHexDigit && match s.drop n with
      | '-' :: rest => isHexGroups sizes rest
      | _ => false

def isUuidText (s : List Char) : Bool := isHexGroups [8, 4, 4, 4, 12] s

def toUuidText? : Value → Option String
  | .uuid u => some u.text
  | .text s =>
    let t := trimmed s
    if isUuidText t then some (String.ofList (Text.lower t)) else none
  | _ => none

end Intake.Coercion
