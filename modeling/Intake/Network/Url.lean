import Intake.Network.Address

namespace Intake.Network

/-- Why the host of a reference cannot be read. -/
inductive UrlFault where
  | unbalancedBrackets
  | badFutureAddress
  | ipv4InBrackets
  | notAnAddress (host : String)
  | unsafeHost (host : String)
  deriving DecidableEq, Repr

def UrlFault.message : UrlFault → String
  | .unbalancedBrackets => "Invalid IPv6 URL"
  | .badFutureAddress => "IPvFuture address is invalid"
  | .ipv4InBrackets => "An IPv4 address cannot be in brackets"
  | .notAnAddress host =>
    String.ofList (Text.quoted host.toList) ++ " does not appear to be an IPv4 or IPv6 address"
  | .unsafeHost host =>
    "netloc '" ++ host ++ "' contains invalid characters under NFKC normalization"

/-- The scheme and the host of a reference, either of which may be empty. -/
structure UrlHead where
  scheme : List Char
  host : List Char
  deriving DecidableEq, Repr

def isSchemeChar (c : Char) : Bool :=
  c.isAlphanum || c = '+' || c = '-' || c = '.'

/-- Characters whose compatibility form holds one that ends a host. -/
def unsafeHostChars : List Nat := [
  0x2047, 0x2048, 0x2049, 0x2100, 0x2101, 0x2105, 0x2106, 0x2A74, 0xFE13, 0xFE16, 0xFE55, 0xFE56,
  0xFE5F, 0xFE6B, 0xFF03, 0xFF0F, 0xFF1A, 0xFF1F, 0xFF20]

/-- An address of a later version: `v`, hexadecimal digits, a point and anything. -/
def isFutureAddress (s : List Char) : Bool :=
  match s with
  | 'v' :: rest =>
    let ds := rest.takeWhile Coercion.isHexDigit
    let more := rest.drop ds.length
    !ds.isEmpty && more.head? = some '.' && 2 ≤ more.length
  | _ => false

/-- A host in brackets is an address that is not of four octets. -/
def checkBracketed (host : List Char) : Except UrlFault Unit :=
  if host.head? = some 'v' then
    if isFutureAddress host then .ok () else .error .badFutureAddress
  else if isIPv4 host then .error .ipv4InBrackets
  else if isIPv6 host then .ok ()
  else .error (.notAnAddress (String.ofList host))

/-- What follows the last at sign. -/
def afterUser (host : List Char) : List Char := (host.reverse.takeWhile (· ≠ '@')).reverse

/-- Brackets enclose the whole name of a host, so that only a colon and a number may follow them. -/
def checkBrackets (host : List Char) : Except UrlFault Unit := do
  let named := afterUser host
  if named.contains '[' then
    if named.head? ≠ some '[' then .error .unbalancedBrackets
    let name := (named.drop 1).takeWhile (· ≠ ']')
    let more := named.drop (name.length + 2)
    if !more.isEmpty && more.head? ≠ some ':' then .error .unbalancedBrackets
    checkBracketed name
  else checkBracketed (named.takeWhile (· ≠ ':'))

def checkHost (host : List Char) : Except UrlFault Unit := do
  let opens := host.contains '['
  let closes := host.contains ']'
  if opens != closes then .error .unbalancedBrackets
  if opens && closes then checkBrackets host
  if host.any fun c => unsafeHostChars.contains c.toNat then
    .error (.unsafeHost (String.ofList host))

/-- A reference split into scheme and host. Controls and spaces in front and line breaks and tabs
anywhere are passed over. -/
def splitUrl (s : List Char) : Except UrlFault UrlHead := do
  let url := (s.dropWhile fun c => c.toNat ≤ 32).filter fun c => c ≠ '\t' && c ≠ '\r' && c ≠ '\n'
  let before := url.takeWhile (· ≠ ':')
  let hasScheme := before.length < url.length && (before.head?).any Char.isAlpha
    && before.all isSchemeChar
  let scheme := if hasScheme then before.map Char.toLower else []
  let rest := if hasScheme then url.drop (before.length + 1) else url
  let host := match rest with
    | '/' :: '/' :: more => more.takeWhile fun c => c ≠ '/' && c ≠ '?' && c ≠ '#'
    | _ => []
  checkHost host
  .ok ⟨scheme, host⟩

/-- A reference that names both a scheme and a host. -/
def isUrl (s : List Char) : Except UrlFault Bool :=
  (splitUrl s).map fun u => !u.scheme.isEmpty && !u.host.isEmpty

end Intake.Network
