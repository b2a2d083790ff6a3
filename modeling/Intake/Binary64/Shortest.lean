import Intake.Binary64

namespace Intake.Binary64

/-- Digits `0.d₁d₂…` times a power of ten, the first and last digit nonzero. -/
structure Digits where
  digits : List Char
  point : Int
  deriving DecidableEq, Repr

/-- A value, and the ends of the interval that rounds to it, as quotients over one denominator. -/
structure Interval where
  low : Nat
  value : Nat
  high : Nat
  den : Nat
  closed : Bool

/-- The numbers that round to `m · 2^e`, in quarters of a unit in the last place. -/
def interval (m : Nat) (e : Int) : Interval :=
  let up := Nat.pow 2 (e - 2).toNat
  let lowGap := if m = Nat.pow 2 52 ∧ leastExponent < e then 1 else 2
  { low := (4 * m - lowGap) * up, value := 4 * m * up, high := (4 * m + 2) * up
    den := Nat.pow 2 (2 - e).toNat, closed := m % 2 = 0 }

/-- Whether `c · 10^p` lies in the interval. -/
def Interval.holds (i : Interval) (c : Nat) (p : Int) : Bool :=
  let x := c * Nat.pow 10 p.toNat * i.den
  let scale := Nat.pow 10 (-p).toNat
  if i.closed then i.low * scale ≤ x && x ≤ i.high * scale
  else i.low * scale < x && x < i.high * scale

/-- Of the two neighbours of the value on the grid of multiples of `10^p` the nearer one that lies in
the interval; a tie goes to the even one. -/
def Interval.onGrid? (i : Interval) (p : Int) : Option Nat :=
  let num := i.value * Nat.pow 10 (-p).toNat
  let den := i.den * Nat.pow 10 p.toNat
  let below := num / den
  let twice := 2 * (num % den)
  let nearest := if twice < den then below else if den < twice then below + 1 else below + below % 2
  let other := if nearest = below then below + 1 else below
  if i.holds nearest p then some nearest
  else if i.holds other p then some other
  else none

/-- Count of digits before the point of `num / den`, or minus the count of zeros after it. -/
def pointOf (num den : Nat) : Int :=
  ((Nat.toDigits 10 (num * Nat.pow 10 345 / den)).length : Int) - 345

def search (i : Interval) (point : Int) : Nat → Nat → Option (Nat × Int)
  | 0, _ => none
  | fuel + 1, n =>
    let p := point - (n : Int)
    match i.onGrid? p with
    | some c => some (c, p)
    | none => search i point fuel (n + 1)

/-- The fewest digits that read back as `m · 2^e`, and the nearest of those. -/
def shortest (m : Nat) (e : Int) : Digits :=
  let i := interval m e
  match search i (pointOf i.value i.den) 17 1 with
  | none => ⟨['0'], 1⟩
  | some (c, p) =>
    let all := Nat.toDigits 10 c
    ⟨(all.reverse.dropWhile (· = '0')).reverse, (all.length : Int) + p⟩

/-- The exponent of a number's scientific form, at least two digits wide. -/
def exponentText (x : Int) : List Char :=
  let sign := if x < 0 then '-' else '+'
  let ds := Nat.toDigits 10 x.natAbs
  sign :: (if ds.length < 2 then '0' :: ds else ds)

/-- Positional from `1e-4` up to below `1e16`, scientific elsewhere; a positional number always shows
a fraction. -/
def layout (d : Digits) : List Char :=
  let n := d.digits.length
  if -4 < d.point ∧ d.point ≤ 16 then
    if d.point ≤ 0 then '0' :: '.' :: (List.replicate (-d.point).toNat '0' ++ d.digits)
    else if n ≤ d.point.toNat then
      d.digits ++ List.replicate (d.point.toNat - n) '0' ++ ['.', '0']
    else d.digits.take d.point.toNat ++ '.' :: d.digits.drop d.point.toNat
  else
    let mark := 'e' :: exponentText (d.point - 1)
    match d.digits with
    | [] => mark
    | [c] => c :: mark
    | c :: rest => c :: '.' :: (rest ++ mark)

/-- The text of a number. -/
def text : Binary64 → String
  | .nan => "nan"
  | .infinite negative => if negative then "-inf" else "inf"
  | .finite negative m e =>
    let body := if m = 0 then ['0', '.', '0'] else layout (shortest m e)
    String.ofList (if negative then '-' :: body else body)

end Intake.Binary64
