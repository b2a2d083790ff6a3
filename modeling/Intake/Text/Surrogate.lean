namespace Intake.Text

/-- Half of a surrogate pair has no scalar value of its own. Where a text holds one, the private-use
character of the last plane with the same place in its plane stands for it. -/
def surrogateBase : Nat := 0x10D800

def ofSurrogate (unit : Nat) : Char := Char.ofNat (surrogateBase + (unit - 0xD800))

/-- The surrogate that a character stands for. -/
def surrogate? (c : Char) : Option Nat :=
  if surrogateBase ≤ c.toNat && c.toNat < surrogateBase + 0x800 then
    some (c.toNat - surrogateBase + 0xD800)
  else none

def hasSurrogate (s : List Char) : Bool := s.any fun c => (surrogate? c).isSome

end Intake.Text
