import Intake.Calendar.Moment

namespace Intake.Calendar.Iso

/-- The byte at the start of a text; zero stands for its end. -/
def peek (s : List UInt8) : UInt8 := s.headD 0

def isDigit (b : UInt8) : Bool := 48 ≤ b && b ≤ 57

/-- A number of exactly so many digits, and what follows it. -/
def digits? (count : Nat) (s : List UInt8) : Option (Nat × List UInt8) :=
  let ds := s.take count
  if ds.length = count && ds.all isDigit then
    some (ds.foldl (fun n b => 10 * n + (b.toNat - 48)) 0, s.drop count)
  else none

/-- Day number of the Monday that starts the first week of a year. -/
def firstMonday (year : Nat) : Nat :=
  let firstDay := Date.daysBeforeYear year + 1
  let firstWeekday := Date.weekday firstDay
  let monday := firstDay + 7 - firstWeekday
  if firstWeekday ≤ 3 then monday - 7 else monday

/-- The date of a day of a numbered week. -/
def ofWeek? (year week day : Nat) : Option Date :=
  let first := Date.weekday (Date.daysBeforeYear year + 1)
  let long := first = 3 ∨ (first = 2 ∧ isLeap year)
  if year = 0 ∨ week = 0 ∨ 53 < week ∨ (week = 53 ∧ ¬ long) ∨ day = 0 ∨ 7 < day then none
  else Date.ofDayNumber? (firstMonday year + (week - 1) * 7 + (day - 1))

/-- How many bytes of a text of at least eight belong to its date. -/
def dateLength (s : List UInt8) : Nat :=
  let at' := fun i => peek (s.drop i)
  let n := s.length
  if n = 7 then 7
  else if at' 4 = 45 then
    if at' 5 = 87 then
      if 8 < n && at' 8 = 45 then (if 10 < n && isDigit (at' 10) then 8 else 10) else 8
    else 10
  else if at' 4 = 87 then
    let last := 7 + ((s.drop 7).takeWhile isDigit).length
    if last < 9 then last else if last % 2 = 0 then 7 else 8
  else 8

/-- The date that a text of the given length starts with. -/
def date? (s : List UInt8) (length : Nat) : Option Date := do
  let (year, rest) ← digits? 4 s
  let dashed := peek rest = 45
  let rest := if dashed then rest.drop 1 else rest
  if peek rest = 87 then
    let (week, rest) ← digits? 2 (rest.drop 1)
    let used := s.length - rest.length
    if used < length then
      if dashed && peek rest != 45 then none
      let (day, _) ← digits? 1 (if dashed then rest.drop 1 else rest)
      ofWeek? year week day
    else ofWeek? year week 1
  else
    let (month, rest) ← digits? 2 rest
    if dashed && peek rest != 45 then none
    let (day, _) ← digits? 2 (if dashed then rest.drop 1 else rest)
    Date.of? year month day

/-- Hours, minutes, seconds and microseconds, and whether nothing was left over after them. -/
structure Clock where
  hour : Nat
  minute : Nat
  second : Nat
  micro : Nat
  complete : Bool
  deriving DecidableEq, Repr

def Clock.with (c : Clock) (field value : Nat) : Clock :=
  if field = 0 then { c with hour := value }
  else if field = 1 then { c with minute := value }
  else { c with second := value }

/-- A fraction of a second: six digits count and further digits are passed over. -/
def fraction? (c : Clock) (s : List UInt8) (room : Nat) : Option Clock := do
  let count := min room 6
  let (n, rest) ← digits? count s
  let after := rest.dropWhile isDigit
  some { c with micro := n * Nat.pow 10 (6 - count), complete := peek after = 0 }

/-- The parts of a clock from one field on. `room` counts the bytes up to the end of the clock, past
which the text may go on with an offset; the separator is decided after the first field. -/
def clockFrom? (separated : Bool) (c : Clock) (s : List UInt8) (room : Nat) : Nat → Option Clock
  | 0 => fraction? c s room
  | left + 1 => do
    let field := 2 - left
    let (value, rest) ← digits? 2 s
    let c := c.with field value
    let next := peek rest
    let separated := if field = 0 then next = 58 else separated
    if room ≤ 3 then some { c with complete := next = 0 }
    else if separated && next = 58 then clockFrom? separated c (rest.drop 1) (room - 3) left
    else if next = 46 || next = 44 then fraction? c (rest.drop 1) (room - 3)
    else if !separated then clockFrom? separated c rest (room - 2) left
    else none

def clock? (s : List UInt8) (room : Nat) : Option Clock :=
  clockFrom? true ⟨0, 0, 0, 0, false⟩ s room 3

def isOffsetMark (b : UInt8) : Bool := b = 43 || b = 45 || b = 90

/-- The time of day and offset that a text holds. -/
def time? (s : List UInt8) : Option (TimeOfDay × Option Offset) := do
  let room := (s.takeWhile fun b => !isOffsetMark b).length
  let c ← clock? s room
  let offset ← match s.drop room with
    | [] => if c.complete then some none else none
    | mark :: rest =>
      if mark = 90 then (if rest = [] then some (some Offset.utc) else none)
      else do
        let o ← clock? rest rest.length
        if !o.complete then none
        let seconds := o.hour * 3600 + o.minute * 60 + o.second
        if seconds = 0 then some (some Offset.utc)
        else
          let total : Int := ((seconds * 1000000 + o.micro : Nat) : Int)
          (Offset.of? (if mark = 45 then -total else total)).map some
  let time ← TimeOfDay.of? c.hour c.minute c.second c.micro
  some (time, offset)

/-- A text without its first character. -/
def dropChar (s : List UInt8) : List UInt8 :=
  let b := peek s
  if b < 128 then s.drop 1 else if b < 224 then s.drop 2 else if b < 240 then s.drop 3 else s.drop 4

/-- A date, alone or followed by any one character and a time of day, in the standard's forms. -/
def moment? (s : String) : Option Moment := do
  let bytes := s.toUTF8.toList
  if bytes.length < 7 then none
  let n := dateLength bytes
  let date ← date? bytes n
  if bytes.length ≤ n then some ⟨date, TimeOfDay.midnight, none⟩
  else
    let (time, offset) ← time? (dropChar (bytes.drop n))
    some ⟨date, time, offset⟩

/-- A date alone in one of the standard's forms. -/
def day? (s : String) : Option Date :=
  let bytes := s.toUTF8.toList
  if bytes.length = 7 ∨ bytes.length = 8 ∨ bytes.length = 10 then date? bytes bytes.length else none

end Intake.Calendar.Iso
