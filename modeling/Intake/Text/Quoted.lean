import Intake.Text.Printable
import Intake.Text.Surrogate

namespace Intake.Text

def hexDigit (n : Nat) : Char := "0123456789abcdef".toList.getD n '0'

/-- The last `width` hexadecimal digits of a number. -/
def hex (width n : Nat) : List Char :=
  match width with
  | 0 => []
  | w + 1 => hex w (n / 16) ++ [hexDigit (n % 16)]

/-- One character inside quotes: a backslash before the quote and itself, short forms for the three
common controls and code point forms for what cannot be printed. -/
def quotedChar (quote c : Char) : List Char :=
  if c = quote ∨ c = '\\' then ['\\', c]
  else if c = '\t' then ['\\', 't']
  else if c = '\n' then ['\\', 'n']
  else if c = '\r' then ['\\', 'r']
  else if isPrintable c then [c]
  else if c.toNat < 0x100 then '\\' :: 'x' :: hex 2 c.toNat
  else if c.toNat < 0x10000 then '\\' :: 'u' :: hex 4 c.toNat
  else match surrogate? c with
    | some unit => '\\' :: 'u' :: hex 4 unit
    | none => '\\' :: 'U' :: hex 8 c.toNat

/-- A text in single quotes, or in double ones when it holds single quotes alone. -/
def quoted (s : List Char) : List Char :=
  let quote := if s.contains '\'' && !s.contains '"' then '"' else '\''
  quote :: (s.flatMap (quotedChar quote) ++ [quote])

/-- Bytes as a quoted text in which only printable ASCII stands for itself. -/
def quotedBytes (bs : List UInt8) : List Char :=
  let quote := if bs.contains 39 && !bs.contains 34 then '"' else '\''
  let one := fun (b : UInt8) =>
    let c := Char.ofNat b.toNat
    if c.toNat < 128 then quotedChar quote c else '\\' :: 'x' :: hex 2 b.toNat
  'b' :: quote :: (bs.flatMap one ++ [quote])

end Intake.Text
