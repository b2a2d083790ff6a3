import Intake.Calendar.Moment
import Intake.Text.Blank
import Intake.Text.Digit

namespace Intake.Calendar

/-- One element of a written layout of dates and times. -/
inductive Piece where
  | year
  | month
  | day
  | hour
  | minute
  | second
  | fraction
  | offset
  | blanks
  | letter (lower : Char)
  | mark (c : Char)
  deriving DecidableEq, Repr

/-- What the pieces of a layout have said so far. -/
structure Reading where
  year : Nat := 1900
  month : Nat := 1
  day : Nat := 1
  hour : Nat := 0
  minute : Nat := 0
  second : Nat := 0
  micro : Nat := 0
  offset : Option (List Char) := none
  deriving DecidableEq, Repr

/-- The ways to take one or two digits as a number, the longer one first. `leading` says which two
digit forms are taken. -/
def twoDigits (leading : Char → Char → Bool) (single : Char → Bool) (s : List Char) :
    List (Nat × List Char) :=
  let two := match s with
    | a :: b :: rest => if leading a b then [(Text.digitsValue [a, b], rest)] else []
    | _ => []
  let one := match s with
    | a :: rest => if single a then [(Text.digitsValue [a], rest)] else []
    | _ => []
  two ++ one

def between (low high c : Char) : Bool := low ≤ c && c ≤ high

/-- All ways to take `count` down to one ASCII digits as a fraction of a second in microseconds. -/
def fractions (s : List Char) : Nat → List (Nat × List Char)
  | 0 => []
  | count + 1 =>
    let ds := s.take (count + 1)
    if ds.length = count + 1 && ds.all (between '0' '9') then
      (Text.digitsValue ds * Nat.pow 10 (6 - (count + 1)), s.drop (count + 1)) :: fractions s count
    else fractions s count

/-- All ways to take at most `count` digits, the longest first. -/
def digitRuns (s : List Char) : Nat → List (List Char × List Char)
  | 0 => []
  | count + 1 =>
    let ds := s.take (count + 1)
    if ds.length = count + 1 && ds.all Text.isDigit then (ds, s.drop (count + 1)) :: digitRuns s count
    else digitRuns s count

/-- The seconds of an offset with an optional fraction, or nothing. -/
def offsetSeconds (s : List Char) : List (List Char × List Char) :=
  let afterColon := fun (t : List Char) (lead : List Char) => match t with
    | a :: b :: rest =>
      if between '0' '5' a && Text.isDigit b then
        let taken := lead ++ [a, b]
        let longer := match rest with
          | '.' :: more => (digitRuns more 6).map fun (ds, r) => (taken ++ '.' :: ds, r)
          | _ => []
        longer ++ [(taken, rest)]
      else []
    | _ => []
  let withColon := match s with
    | ':' :: rest => afterColon rest [':']
    | _ => []
  withColon ++ afterColon s [] ++ [([], s)]

/-- The ways to take an offset: a sign, hours, minutes and optional seconds, or a capital `Z`. -/
def offsets (s : List Char) : List (List Char × List Char) :=
  let minutes := fun (lead t : List Char) => match t with
    | c :: d :: rest =>
      if between '0' '5' c && Text.isDigit d then
        (offsetSeconds rest).map fun (more, r) => (lead ++ [c, d] ++ more, r)
      else []
    | _ => []
  match s with
  | 'Z' :: rest => [(['Z'], rest)]
  | sign :: a :: b :: rest =>
    if (sign = '+' || sign = '-') && Text.isDigit a && Text.isDigit b then
      let withColon := match rest with
        | ':' :: more => minutes [sign, a, b, ':'] more
        | _ => []
      withColon ++ minutes [sign, a, b] rest
    else []
  | _ => []

/-- All ways to take a row of blanks, the longest first. -/
def blankRuns : List Char → List (List Char)
  | [] => []
  | c :: rest => if Text.isBlank c then blankRuns rest ++ [rest] else []

/-- All ways in which a piece can be read at the start of a text, in order of preference. -/
def Piece.readings (p : Piece) (r : Reading) (s : List Char) : List (Reading × List Char) :=
  match p with
  | .year =>
    match s with
    | a :: b :: c :: d :: rest =>
      if [a, b, c, d].all Text.isDigit then [({ r with year := Text.digitsValue [a, b, c, d] }, rest)]
      else []
    | _ => []
  | .month =>
    (twoDigits (fun a b => a = '1' && between '0' '2' b || a = '0' && between '1' '9' b)
      (between '1' '9') s).map fun (n, t) => ({ r with month := n }, t)
  | .day =>
    let plain := twoDigits
      (fun a b => a = '3' && between '0' '1' b || between '1' '2' a && Text.isDigit b
        || a = '0' && between '1' '9' b) (between '1' '9') s
    let spaced := match s with
      | ' ' :: b :: rest => if between '1' '9' b then [(Text.digitsValue [b], rest)] else []
      | _ => []
    (plain ++ spaced).map fun (n, t) => ({ r with day := n }, t)
  | .hour =>
    (twoDigits (fun a b => a = '2' && between '0' '3' b || between '0' '1' a && Text.isDigit b)
      Text.isDigit s).map fun (n, t) => ({ r with hour := n }, t)
  | .minute =>
    (twoDigits (fun a b => between '0' '5' a && Text.isDigit b) Text.isDigit s).map
      fun (n, t) => ({ r with minute := n }, t)
  | .second =>
    (twoDigits (fun a b => a = '6' && between '0' '1' b || between '0' '5' a && Text.isDigit b)
      Text.isDigit s).map fun (n, t) => ({ r with second := n }, t)
  | .fraction => (fractions s 6).map fun (n, t) => ({ r with micro := n }, t)
  | .offset => (offsets s).map fun (o, t) => ({ r with offset := some o }, t)
  | .blanks => (blankRuns s).map fun t => (r, t)
  | .letter c =>
    match s with
    | x :: rest => if x.toLower = c then [(r, rest)] else []
    | [] => []
  | .mark c =>
    match s with
    | x :: rest => if x = c then [(r, rest)] else []
    | [] => []

/-- The first reading of a row of pieces, in order of preference of each piece in turn. -/
def firstReading : List Piece → Reading → List Char → Option (Reading × List Char)
  | [], r, s => some (r, s)
  | p :: ps, r, s => (p.readings r s).findSome? fun (r', s') => firstReading ps r' s'

/-- The offset that an offset text denotes: a colon stands before the seconds just when one stands
before the minutes. -/
def offsetOf? : List Char → Option Offset
  | ['Z'] => some Offset.utc
  | sign :: a :: b :: rest => do
    let rest ← match rest with
      | ':' :: c :: d :: more => match more with
        | [] => some [c, d]
        | ':' :: seconds => some (c :: d :: seconds)
        | _ => none
      | _ => some rest
    if (rest.drop 2).head? = some ':' then none
    let hours := Text.digitsValue [a, b]
    let minutes := Text.digitsValue (rest.take 2)
    let seconds := Text.digitsValue ((rest.drop 2).take 2)
    let fraction := rest.drop 5
    let micros := Text.digitsValue fraction * Nat.pow 10 (6 - fraction.length)
    let total : Nat := (hours * 3600 + minutes * 60 + seconds) * 1000000 + micros
    Offset.of? (if sign = '-' then -(total : Int) else (total : Int))
  | _ => none

/-- The moment that a reading names, where there is such a day, time and offset. -/
def Reading.moment? (r : Reading) : Option Moment := do
  let offset ← match r.offset with
    | none => some none
    | some text => (offsetOf? text).map some
  let date ← Date.of? r.year r.month r.day
  let time ← TimeOfDay.of? r.hour r.minute r.second r.micro
  some ⟨date, time, offset⟩

/-- A text read by a layout, which has to take all of it. -/
def readLayout? (layout : List Piece) (s : List Char) : Option Moment :=
  match firstReading layout {} s with
  | some (r, []) => r.moment?
  | _ => none

end Intake.Calendar
