import Intake.Calendar.Date

namespace Intake

structure TimeOfDay where
  hour : Nat
  minute : Nat
  second : Nat
  micro : Nat
  inDay : hour < 24 ∧ minute < 60 ∧ second < 60 ∧ micro < 1000000
  deriving DecidableEq, Repr

namespace TimeOfDay

def of? (hour minute second micro : Nat) : Option TimeOfDay :=
  if h : hour < 24 ∧ minute < 60 ∧ second < 60 ∧ micro < 1000000
  then some ⟨hour, minute, second, micro, h⟩
  else none

def midnight : TimeOfDay := ⟨0, 0, 0, 0, by decide⟩

/-- Hours, minutes and seconds as `HH:MM:SS`. -/
def clock (t : TimeOfDay) : List Char :=
  Date.padded 2 t.hour ++ ':' :: (Date.padded 2 t.minute ++ ':' :: Date.padded 2 t.second)

/-- The fraction of the second, six digits after a point, absent when it is zero. -/
def fraction (t : TimeOfDay) : List Char :=
  if t.micro = 0 then [] else '.' :: Date.padded 6 t.micro

end TimeOfDay

/-- Distance from universal time in microseconds, less than a day either way. -/
structure Offset where
  micros : Int
  bounded : micros.natAbs < 86400000000
  deriving DecidableEq, Repr

namespace Offset

def of? (micros : Int) : Option Offset :=
  if h : micros.natAbs < 86400000000 then some ⟨micros, h⟩ else none

def utc : Offset := ⟨0, by decide⟩

/-- Sign, hours and minutes, then seconds and their fraction where they are not zero. -/
def chars (o : Offset) : List Char :=
  let sign := if o.micros < 0 then '-' else '+'
  let micros := o.micros.natAbs
  let seconds := micros / 1000000
  let fraction := micros % 1000000
  let tail :=
    if fraction ≠ 0 then ':' :: (Date.padded 2 (seconds % 60) ++ '.' :: Date.padded 6 fraction)
    else if seconds % 60 ≠ 0 then ':' :: Date.padded 2 (seconds % 60)
    else []
  sign :: (Date.padded 2 (seconds / 3600) ++ ':' :: (Date.padded 2 (seconds / 60 % 60) ++ tail))

end Offset

/-- A date and a time of day, with the offset from universal time where it is known. -/
structure Moment where
  date : Date
  time : TimeOfDay
  offset : Option Offset
  deriving DecidableEq, Repr

namespace Moment

def offsetChars (m : Moment) : List Char :=
  match m.offset with
  | none => []
  | some o => o.chars

/-- Date and time with a separator between, the fraction and the offset where there are any. -/
def isoWith (separator : Char) (m : Moment) : List Char :=
  m.date.isoChars ++ separator :: (m.time.clock ++ m.time.fraction ++ m.offsetChars)

def iso (m : Moment) : String := String.ofList (m.isoWith 'T')

/-- Whole seconds, with `Z` for universal time; there the year is not padded. -/
def canonical (m : Moment) : String :=
  let isUtc := match m.offset with
    | none => true
    | some o => o.micros = 0
  if isUtc then
    String.ofList (Nat.toDigits 10 m.date.year ++ '-' :: (Date.padded 2 m.date.month ++ '-' ::
      (Date.padded 2 m.date.day ++ 'T' :: (m.time.clock ++ ['Z']))))
  else String.ofList (m.date.isoChars ++ 'T' :: (m.time.clock ++ m.offsetChars))

/-- The moment so many seconds after the start of 1970 in universal time. -/
def ofEpochSeconds? (seconds : Int) : Option Moment := do
  let days := seconds.fdiv 86400 + 719163
  if days < 1 then none
  let rest := (seconds.fmod 86400).toNat
  let date ← Date.ofDayNumber? days.toNat
  let time ← TimeOfDay.of? (rest / 3600) (rest / 60 % 60) (rest % 60) 0
  some ⟨date, time, some Offset.utc⟩

/-- Microseconds from the start of year 1 in universal time; a missing offset counts as zero. -/
def absolute (m : Moment) : Int :=
  (((m.date.dayNumber * 86400 + m.time.hour * 3600 + m.time.minute * 60 + m.time.second : Nat) : Int)
    * 1000000 + (m.time.micro : Int)) - (m.offset.elim 0 Offset.micros)

end Moment

end Intake
