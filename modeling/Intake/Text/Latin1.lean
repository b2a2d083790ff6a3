namespace Intake.Text

/-- The characters that have the octets' numbers. -/
def ofLatin1 (data : List UInt8) : List Char := data.map fun b => Char.ofNat b.toNat

/-- The octets that have the characters' numbers, unless one is too large. -/
def latin1? (s : List Char) : Option (List UInt8) :=
  if s.all (·.toNat < 256) then some (s.map fun c => c.toNat.toUInt8) else none

/-- White space among octets. -/
def isBlankOctet (b : UInt8) : Bool := b = 32 || (9 ≤ b && b ≤ 13)

/-- Octets without the white space at either end. -/
def trimOctets (data : List UInt8) : List UInt8 :=
  ((data.dropWhile isBlankOctet).reverse.dropWhile isBlankOctet).reverse

end Intake.Text
