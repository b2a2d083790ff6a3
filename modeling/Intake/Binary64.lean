namespace Intake

/-- A binary64 number. `finite s m e` stands for `m · 2^e`, negated when `s` holds, and is kept with
`m < 2^53` and `-1074 ≤ e`, and with `2^52 ≤ m` unless `e = -1074`. -/
inductive Binary64 where
  | nan
  | infinite (negative : Bool)
  | finite (negative : Bool) (mantissa : Nat) (exponent : Int)
  deriving DecidableEq, Repr, Inhabited

namespace Binary64

def zero (negative : Bool) : Binary64 := .finite negative 0 (-1074)

def leastExponent : Int := -1074

def greatestExponent : Int := 971

/-- A quotient rounded to the nearest integer, a half to the even neighbour. -/
def roundQuotient (num den : Nat) : Nat :=
  let q := num / den
  let r := num % den
  if 2 * r < den then q
  else if den < 2 * r then q + 1
  else q + q % 2

/-- The quotient `num / den` divided by `2^e` and rounded. -/
def roundScaled (num den : Nat) (e : Int) : Nat :=
  roundQuotient (num * Nat.pow 2 (-e).toNat) (den * Nat.pow 2 e.toNat)

/-- Exponent under which the quotient `num / den` keeps 53 bits, or the least one. -/
def exponentOf (num den : Nat) : Int :=
  let guess : Int := (num.log2 : Int) - (den.log2 : Int) - 52
  let low := if num * Nat.pow 2 (-guess).toNat < Nat.pow 2 52 * (den * Nat.pow 2 guess.toNat)
    then guess - 1 else guess
  max leastExponent low

/-- The number nearest to `num / den`, ties to an even mantissa; infinite past the largest one. -/
def ofQuotient (negative : Bool) (num den : Nat) : Binary64 :=
  if num = 0 then zero negative
  else
    let e := exponentOf num den
    let m := roundScaled num den e
    let (m, e) := if m = Nat.pow 2 53 then (Nat.pow 2 52, e + 1) else (m, e)
    if greatestExponent < e then .infinite negative else .finite negative m e

/-- The number nearest to `coefficient · 10^scale`. -/
def ofDecimal (negative : Bool) (coefficient : Nat) (scale : Int) : Binary64 :=
  if coefficient = 0 then zero negative
  else
    let magnitude := ((Nat.toDigits 10 coefficient).length : Int) + scale
    if 310 < magnitude then .infinite negative
    else if magnitude < -330 then zero negative
    else ofQuotient negative (coefficient * Nat.pow 10 scale.toNat) (Nat.pow 10 (-scale).toNat)

/-- The number nearest to an integer; `none` when the integer is past the largest number. -/
def ofInt? (n : Int) : Option Binary64 :=
  match ofQuotient (n < 0) n.natAbs 1 with
  | .infinite _ => none
  | x => some x

/-- The integer that a number is, if it is one. -/
def toInt? : Binary64 → Option Int
  | .nan => none
  | .infinite _ => none
  | .finite negative m e =>
    let whole : Option Nat :=
      if 0 ≤ e then some (m * Nat.pow 2 e.toNat)
      else if m % Nat.pow 2 (-e).toNat = 0 then some (m / Nat.pow 2 (-e).toNat)
      else none
    whole.map fun n => if negative then -(n : Int) else (n : Int)

def isInfinite : Binary64 → Bool
  | .infinite _ => true
  | _ => false

end Binary64

/-- A number of either kind. -/
inductive Number where
  | int (n : Int)
  | float (x : Binary64)
  deriving DecidableEq, Repr, Inhabited

namespace Number

/-- A point of the number line with both ends: `inner n e` is `n · 2^e`. -/
inductive Point where
  | below
  | inner (coefficient : Int) (exponent : Int)
  | above
  deriving DecidableEq, Repr

/-- The place of a number on the line; NaN has none. -/
def point? : Number → Option Point
  | .int n => some (.inner n 0)
  | .float .nan => none
  | .float (.infinite negative) => some (if negative then .below else .above)
  | .float (.finite negative m e) => some (.inner (if negative then -(m : Int) else (m : Int)) e)

namespace Point

def lt : Point → Point → Bool
  | .below, .below => false
  | .below, _ => true
  | .inner a e, .inner b f => a * Nat.pow 2 (e - min e f).toNat < b * Nat.pow 2 (f - min e f).toNat
  | .inner _ _, .above => true
  | .inner _ _, .below => false
  | .above, _ => false

def eq : Point → Point → Bool
  | .below, .below => true
  | .above, .above => true
  | .inner a e, .inner b f => a * Nat.pow 2 (e - min e f).toNat = b * Nat.pow 2 (f - min e f).toNat
  | _, _ => false

end Point

/-- Order by exact value; false when either side is NaN. -/
def lt (a b : Number) : Bool :=
  match a.point?, b.point? with
  | some p, some q => p.lt q
  | _, _ => false

/-- Equality by exact value; NaN equals nothing. -/
def equal (a b : Number) : Bool :=
  match a.point?, b.point? with
  | some p, some q => p.eq q
  | _, _ => false

end Number

end Intake
