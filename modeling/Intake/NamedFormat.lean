import Intake.Network.Url

namespace Intake

/-- The formats known by name. -/
inductive NamedFormat where
  | email
  | url
  | uuid
  | datetime
  | date
  | time
  | ipv4
  | ipv6
  | hostname
  | phone
  deriving DecidableEq, Repr

namespace NamedFormat

def names : List (String × NamedFormat) := [
  ("email", .email), ("url", .url), ("uri", .url), ("uuid", .uuid), ("iso8601", .datetime),
  ("datetime", .datetime), ("date", .date), ("time", .time), ("ipv4", .ipv4), ("ipv6", .ipv6),
  ("hostname", .hostname), ("phone", .phone)]

def ofName? (name : String) : Option NamedFormat := names.lookup name

/-- A text without one line break at its very end. -/
def withoutFinalBreak (s : List Char) : List Char :=
  if s.getLast? = some '\n' then s.dropLast else s

def isLocalChar (c : Char) : Bool :=
  c.isAlphanum || c = '.' || c = '_' || c = '%' || c = '+' || c = '-'

def isDomainChar (c : Char) : Bool := c.isAlphanum || c = '.' || c = '-'

/-- A local part, an at sign, and a domain whose last label has at least two letters and no others. -/
def isEmail (s : List Char) : Bool :=
  let s := withoutFinalBreak s
  let localPart := s.takeWhile (· ≠ '@')
  let domain := (s.drop (localPart.length + 1))
  let label := (domain.reverse.takeWhile (· ≠ '.')).reverse
  let before := domain.take (domain.length - label.length - 1)
  localPart.length < s.length && !localPart.isEmpty && localPart.all isLocalChar
    && label.length < domain.length && 2 ≤ label.length && label.all Char.isAlpha
    && !before.isEmpty && before.all isDomainChar

/-- Digits in groups of two or more sizes with given characters between them. -/
def digitGroups (first : Nat) : List (Char × Nat) → List Char → Option (List Char)
  | more, s =>
    let group := s.take first
    if group.length = first && group.all Text.isDigit then
      match more with
      | [] => some (s.drop first)
      | (c, n) :: rest =>
        match s.drop first with
        | d :: tail => if d = c then digitGroups n rest tail else none
        | [] => none
    else none
termination_by more => more.length

def isDateShape (s : List Char) : Bool :=
  digitGroups 4 [('-', 2), ('-', 2)] s = some []

def isDate (s : List Char) : Bool :=
  isDateShape (withoutFinalBreak s) && (Calendar.Iso.day? (String.ofList s)).isSome

/-- Hours and minutes, and seconds where there are any. -/
def isTime (s : List Char) : Bool :=
  let s := withoutFinalBreak s
  digitGroups 2 [(':', 2)] s = some [] || digitGroups 2 [(':', 2), (':', 2)] s = some []

/-- A `Z`, or a sign with hours and minutes, or nothing. -/
def isZoneShape (s : List Char) : Bool :=
  match s with
  | [] => true
  | ['Z'] => true
  | sign :: rest =>
    (sign = '+' || sign = '-')
      && (digitGroups 2 [(':', 2)] rest = some [] || digitGroups 4 [] rest = some [])

/-- A fraction of a second, if there is one, and a zone. -/
def isFractionShape (s : List Char) : Bool :=
  match s with
  | '.' :: rest =>
    let ds := rest.takeWhile Text.isDigit
    !ds.isEmpty && isZoneShape (rest.drop ds.length)
  | _ => isZoneShape s

def isClockShape (s : List Char) : Bool :=
  match digitGroups 2 [(':', 2), (':', 2)] s with
  | some rest => isFractionShape rest
  | none =>
    match digitGroups 2 [(':', 2)] s with
    | some rest => isZoneShape rest
    | none => false

def isMomentShape (s : List Char) : Bool :=
  match digitGroups 4 [('-', 2), ('-', 2)] s with
  | some (c :: rest) => (c = 'T' || c = ' ') && isClockShape rest
  | _ => false

def isMoment (s : List Char) : Bool :=
  isMomentShape (withoutFinalBreak s)
    && (Calendar.Iso.moment? (String.ofList (Coercion.spellUtc s))).isSome

/-- Letters, digits and dashes, a dash at neither end. -/
def isHostLabel (s : List Char) : Bool :=
  !s.isEmpty && s.length ≤ 63 && s.all (fun c => c.isAlphanum || c = '-')
    && (s.head?).any Char.isAlphanum && (s.getLast?).any Char.isAlphanum

def isHostname (s : List Char) : Bool :=
  let s := withoutFinalBreak s
  s.length ≤ 253 && (Text.splitOn '.' s).all isHostLabel

/-- An optional plus sign and six to fifteen digits, the first one not zero. -/
def isPhone (s : List Char) : Bool :=
  let s := withoutFinalBreak s
  let ds := if s.head? = some '+' then s.drop 1 else s
  6 ≤ ds.length && ds.length ≤ 15 && (ds.head?).any (fun c => '1' ≤ c && c ≤ '9')
    && (ds.drop 1).all Text.isDigit

/-- Whether a text is in a format. Only the host of a reference can fail to be read. -/
def holds (f : NamedFormat) (s : List Char) : Except Network.UrlFault Bool :=
  match f with
  | .email => .ok (isEmail s)
  | .url => Network.isUrl s
  | .uuid => .ok (Coercion.isUuidText (withoutFinalBreak s))
  | .datetime => .ok (isMoment s)
  | .date => .ok (isDate s)
  | .time => .ok (isTime s)
  | .ipv4 => .ok (Network.isIPv4 s)
  | .ipv6 => .ok (Network.isIPv6 s)
  | .hostname => .ok (isHostname s)
  | .phone => .ok (isPhone s)

end NamedFormat

end Intake
