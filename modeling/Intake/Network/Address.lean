import Intake.Coercion.Scalar
import Intake.Text.Split

namespace Intake.Network

/-- A number below 256 without leading zeros. -/
def isOctet (s : List Char) : Bool :=
  !s.isEmpty && s.all Char.isDigit && s.length ≤ 3 && (s = ['0'] || s.head? ≠ some '0')
    && Text.digitsValue s ≤ 255

/-- Four octets between points. -/
def isIPv4 (s : List Char) : Bool :=
  let parts := Text.splitOn '.' s
  parts.length = 4 && parts.all isOctet

/-- At most four hexadecimal digits. -/
def isHextet (s : List Char) : Bool :=
  !s.isEmpty && s.all Coercion.isHexDigit && s.length ≤ 4

/-- Eight hextets, or fewer around one gap; the parts are what stands between colons. -/
def areHextets (parts : List (List Char)) : Bool :=
  let inner := (parts.drop 1).dropLast
  let gaps := (inner.filter List.isEmpty).length
  if 9 < parts.length || 1 < gaps then false
  else if gaps = 0 then parts.length = 8 && parts.all isHextet
  else
    let high := parts.takeWhile fun p => !p.isEmpty
    let openStart := (parts.head?).any List.isEmpty
    let openEnd := (parts.getLast?).any List.isEmpty
    let before := if openStart then [] else high
    let gapAt := if openStart then 1 else high.length
    let after := parts.drop (gapAt + 1)
    let startOk := !openStart || (parts[1]?).any List.isEmpty
    let endOk := !openEnd || after.length = 1
    let low := if openEnd then [] else after
    startOk && endOk && before.length + low.length ≤ 7 && before.all isHextet && low.all isHextet

/-- Hextets between colons; the last two may be written as an address of four octets, and a zone may
follow a percent sign. -/
def isIPv6 (s : List Char) : Bool :=
  let address := s.takeWhile (· ≠ '%')
  let zone := s.drop address.length
  let zoneOk := zone.isEmpty || 1 < zone.length && !(zone.drop 1).contains '%'
  let parts := Text.splitOn ':' address
  let lastPart := parts.getLast?.getD []
  let full :=
    if lastPart.contains '.' then
      if isIPv4 lastPart then some (parts.dropLast ++ [['0'], ['0']]) else none
    else some parts
  !s.contains '/' && zoneOk && !address.isEmpty && 3 ≤ parts.length && full.any areHextets

end Intake.Network
