import Intake.Text.Surrogate

namespace Intake.Text

/-- The octets of a text, unless it holds half of a surrogate pair. -/
def utf8? (s : String) : Option (List UInt8) :=
  if hasSurrogate s.toList then none else some s.toUTF8.toList

/-- A stretch of octets that stands for no character: how many octets it has, and what is wrong. -/
structure BadOctets where
  size : Nat
  reason : String
  deriving DecidableEq, Repr

def isContinuation (b : UInt8) : Bool := 0x80 ≤ b && b ≤ 0xBF

def charOf (n : Nat) : Char := Char.ofNat n

def low6 (b : UInt8) : Nat := b.toNat % 64

/-- The octets that may follow a leading octet at once. -/
def secondRange (lead : UInt8) : UInt8 × UInt8 :=
  if lead = 0xE0 then (0xA0, 0xBF)
  else if lead = 0xED then (0x80, 0x9F)
  else if lead = 0xF0 then (0x90, 0xBF)
  else if lead = 0xF4 then (0x80, 0x8F)
  else (0x80, 0xBF)

/-- How many octets follow a leading octet; none for an octet that leads nothing. -/
def following? (lead : UInt8) : Option Nat :=
  if 0xC2 ≤ lead && lead ≤ 0xDF then some 1
  else if 0xE0 ≤ lead && lead ≤ 0xEF then some 2
  else if 0xF0 ≤ lead && lead ≤ 0xF4 then some 3
  else none

/-- The value of a character whose leading bits are given, from as many further octets as it needs;
`seen` counts those read before. -/
def readContinuations : Nat → Nat → UInt8 × UInt8 → Nat → List UInt8 → Except BadOctets Nat
  | 0, _, _, value, _ => .ok value
  | _ + 1, seen, _, _, [] => .error ⟨seen, "unexpected end of data"⟩
  | n + 1, seen, (low, high), value, b :: rest =>
    if low ≤ b && b ≤ high then readContinuations n (seen + 1) (0x80, 0xBF) (value * 64 + low6 b) rest
    else .error ⟨seen, "invalid continuation byte"⟩

/-- The first character of octets in UTF-8 and how many octets after the first it takes. -/
def utf8Step (lead : UInt8) (rest : List UInt8) : Except BadOctets (Char × Nat) :=
  if lead < 0x80 then .ok (charOf lead.toNat, 0)
  else
    match following? lead with
    | none => .error ⟨1, "invalid start byte"⟩
    | some n =>
      let bits := lead.toNat % (if n = 1 then 32 else if n = 2 then 16 else 8)
      (readContinuations n 1 (secondRange lead) bits rest).map fun v => (charOf v, n)

/-- Text in UTF-8, with the replacement character in the place of every stretch that is none. -/
def utf8Replacing : List UInt8 → List Char
  | [] => []
  | b :: rest =>
    match utf8Step b rest with
    | .ok (c, n) => c :: utf8Replacing (rest.drop n)
    | .error bad => charOf 0xFFFD :: utf8Replacing (rest.drop (bad.size - 1))
termination_by bs => bs.length
decreasing_by all_goals simp only [List.length_drop, List.length_cons]; omega

end Intake.Text
