import Intake.Json.Problem
import Intake.Text.Surrogate
import Intake.Value

namespace Intake.Json

/-- What is left of a document, and how many characters stand before it. -/
structure Cursor where
  rest : List Char
  offset : Nat

/-- A failure at an offset, or one that has no place. -/
inductive Stop where
  | at (cause : Cause) (offset : Nat)
  | tooManyDigits (count : Nat)
  | tooDeep

namespace Cursor

def peek? (c : Cursor) : Option Char := c.rest.head?

def advance (c : Cursor) (n : Nat) : Cursor := ⟨c.rest.drop n, c.offset + n⟩

def fail {α : Type} (c : Cursor) (cause : Cause) : Except Stop α := .error (.at cause c.offset)

end Cursor

def isSpace (c : Char) : Bool := c = ' ' || c = '\t' || c = '\n' || c = '\r'

def skipSpace (c : Cursor) : Cursor := c.advance (c.rest.takeWhile isSpace).length

def hexValue? (c : Char) : Option Nat :=
  if '0' ≤ c && c ≤ '9' then some (c.toNat - 48)
  else if 'a' ≤ c && c ≤ 'f' then some (c.toNat - 87)
  else if 'A' ≤ c && c ≤ 'F' then some (c.toNat - 55)
  else none

/-- The code unit that four hexadecimal digits write. -/
def unit? (s : List Char) : Option Nat :=
  if s.length < 4 then none
  else (s.take 4).foldlM (fun n c => (hexValue? c).map (16 * n + ·)) 0

def shortEscape? (c : Char) : Option Char :=
  if c = '"' then some '"' else if c = '\\' then some '\\' else if c = '/' then some '/'
  else if c = 'b' then some '\x08' else if c = 'f' then some '\x0c' else if c = 'n' then some '\n'
  else if c = 'r' then some '\r' else if c = 't' then some '\t' else none

/-- The character of a code unit; half of a pair is kept as such. -/
def unitChar (u : Nat) : Char :=
  if 0xD800 ≤ u && u ≤ 0xDFFF then Text.ofSurrogate u else Char.ofNat u

/-- The second half of a surrogate pair, written as an escape of its own. An escape that is cut
short or malformed is an error unless the text ends too soon to hold one. -/
def lowHalf? (s : List Char) (offset : Nat) : Except Stop (Option Nat) :=
  match s with
  | '\\' :: 'u' :: digits =>
    if s.length ≤ 6 then .ok none
    else match unit? digits with
      | none => .error (.at .badUnicodeEscape (offset + 1))
      | some u => .ok (if 0xDC00 ≤ u && u ≤ 0xDFFF then some u else none)
  | _ => .ok none

/-- The characters of a text after its opening quote, which stands at `start`. -/
def textFrom (start : Nat) : Nat → List Char → Cursor → Except Stop (List Char × Cursor)
  | 0, _, _ => .error (.at .openText start)
  | fuel + 1, acc, c =>
    match c.rest with
    | [] => .error (.at .openText start)
    | '"' :: _ => .ok (acc.reverse, c.advance 1)
    | '\\' :: [] => .error (.at .openText start)
    | '\\' :: 'u' :: digits =>
      if digits.length < 5 then (c.advance 1).fail .badUnicodeEscape
      else match unit? digits with
        | none => (c.advance 1).fail .badUnicodeEscape
        | some u =>
          let after := c.advance 6
          if 0xD800 ≤ u && u ≤ 0xDBFF then
            match lowHalf? after.rest after.offset with
            | .error e => .error e
            | .ok (some low) =>
              let joined := 0x10000 + (u - 0xD800) * 0x400 + (low - 0xDC00)
              textFrom start fuel (Char.ofNat joined :: acc) (after.advance 6)
            | .ok none => textFrom start fuel (unitChar u :: acc) after
          else textFrom start fuel (unitChar u :: acc) after
    | '\\' :: e :: _ =>
      match shortEscape? e with
      | none => c.fail .badEscape
      | some x => textFrom start fuel (x :: acc) (c.advance 2)
    | x :: _ =>
      if x.toNat < 32 then c.fail .controlCharacter
      else textFrom start fuel (x :: acc) (c.advance 1)

/-- The text whose opening quote the cursor stands at. -/
def readText (c : Cursor) : Except Stop (String × Cursor) := do
  let (cs, rest) ← textFrom c.offset c.rest.length [] (c.advance 1)
  .ok (String.ofList cs, rest)

def isDigit (c : Char) : Bool := '0' ≤ c && c ≤ '9'

def natOf (ds : List Char) : Nat := ds.foldl (fun n c => 10 * n + (c.toNat - 48)) 0

/-- The fraction that a number goes on with: a point and at least one digit. -/
def fractionOf (s : List Char) : List Char :=
  match s with
  | '.' :: rest => rest.takeWhile isDigit
  | _ => []

/-- The sign and digits of an exponent, with its length in characters. -/
def exponentOf? (s : List Char) : Option (Int × Nat) :=
  match s with
  | e :: rest =>
    if e = 'e' || e = 'E' then
      let (negative, signed, digits) := match rest with
        | '-' :: ds => (true, 1, ds)
        | '+' :: ds => (false, 1, ds)
        | ds => (false, 0, ds)
      let ds := digits.takeWhile isDigit
      if ds.isEmpty then none
      else
        let n : Int := natOf ds
        some (if negative then -n else n, 1 + signed + ds.length)
    else none
  | [] => none

/-- A number: an integer unless a fraction or an exponent follows. -/
def readNumber (c : Cursor) : Except Stop (Value × Cursor) :=
  let negative := c.rest.head? = some '-'
  let body := if negative then c.rest.drop 1 else c.rest
  let whole := match body with
    | '0' :: _ => ['0']
    | _ => body.takeWhile isDigit
  if whole.isEmpty then c.fail .noValue
  else
    let afterWhole := body.drop whole.length
    let fraction := fractionOf afterWhole
    let fractionLength := if fraction.isEmpty then 0 else fraction.length + 1
    let exponent := exponentOf? (afterWhole.drop fractionLength)
    let used := (if negative then 1 else 0) + whole.length + fractionLength + (exponent.elim 0 Prod.snd)
    if fraction.isEmpty && exponent.isNone then
      if digitLimit < whole.length then .error (.tooManyDigits whole.length)
      else
        let n : Int := natOf whole
        .ok (.int (if negative then -n else n), c.advance used)
    else
      let scale : Int := exponent.elim 0 Prod.fst - (fraction.length : Int)
      .ok (.float (Binary64.ofDecimal negative (natOf (whole ++ fraction)) scale), c.advance used)

/-- The words that stand for values. -/
def keywords : List (List Char × Value) := [
  ("null".toList, .null), ("true".toList, .bool true), ("false".toList, .bool false),
  ("NaN".toList, .float .nan), ("Infinity".toList, .float (.infinite false)),
  ("-Infinity".toList, .float (.infinite true))]

def readScalar (c : Cursor) : Except Stop (Value × Cursor) :=
  match c.rest with
  | '"' :: _ => do
    let (s, rest) ← readText c
    .ok (.text s, rest)
  | _ =>
    match keywords.find? fun (word, _) => word.isPrefixOf c.rest with
    | some (word, v) => .ok (v, c.advance word.length)
    | none => readNumber c

mutual

/-- A value at the cursor. `depth` is how many more containers may be opened. -/
def readValue (depth : Nat) : Nat → Cursor → Except Stop (Value × Cursor)
  | 0, c => c.fail .noValue
  | fuel + 1, c =>
    match c.rest with
    | '[' :: _ =>
      if depth = 0 then .error .tooDeep
      else
        let inside := skipSpace (c.advance 1)
        if inside.peek? = some ']' then .ok (.list [], inside.advance 1)
        else do
          let (items, rest) ← readItems (depth - 1) fuel [] inside
          .ok (.list items, rest)
    | '\x7b' :: _ =>
      if depth = 0 then .error .tooDeep
      else
        let inside := skipSpace (c.advance 1)
        if inside.peek? = some '\x7d' then .ok (.map [], inside.advance 1)
        else do
          let (entries, rest) ← readEntries (depth - 1) fuel [] inside
          .ok (.map entries, rest)
    | _ => readScalar c

/-- The items of an array from one of them on, the ones before in reverse. -/
def readItems (depth : Nat) : Nat → List Value → Cursor → Except Stop (List Value × Cursor)
  | 0, _, c => c.fail .noValue
  | fuel + 1, acc, c => do
    let (v, rest) ← readValue depth fuel c
    let next := skipSpace rest
    match next.peek? with
    | some ']' => .ok ((v :: acc).reverse, next.advance 1)
    | some ',' => readItems depth fuel (v :: acc) (skipSpace (next.advance 1))
    | _ => next.fail .noComma

/-- The entries of an object from one of them on; a repeated name takes its last value. -/
def readEntries (depth : Nat) : Nat → Table Value → Cursor → Except Stop (Table Value × Cursor)
  | 0, _, c => c.fail .noName
  | fuel + 1, acc, c => do
    if c.peek? != some '"' then c.fail .noName
    let (name, rest) ← readText c
    let colon := skipSpace rest
    if colon.peek? != some ':' then colon.fail .noColon
    let (v, rest) ← readValue depth fuel (skipSpace (colon.advance 1))
    let next := skipSpace rest
    let acc := Table.put acc name v
    match next.peek? with
    | some '\x7d' => .ok (acc, next.advance 1)
    | some ',' => readEntries depth fuel acc (skipSpace (next.advance 1))
    | _ => next.fail .noComma

end

/-- How many containers may be open at once. -/
def depthLimit : Nat := 980

def document (s : List Char) : Except Stop Value :=
  if s.head? = some '\ufeff' then .error (.at .byteOrderMark 0)
  else do
    let start := skipSpace ⟨s, 0⟩
    let (v, rest) ← readValue depthLimit (2 * s.length + 2) start
    let last := skipSpace rest
    if last.rest.isEmpty then .ok v else last.fail .extraData

def Stop.problem (s : List Char) : Stop → Problem
  | .at cause offset => Problem.at s cause offset
  | .tooManyDigits count => .tooManyDigits count
  | .tooDeep => .tooDeep

/-- The value that a document in JSON denotes. NaN and the infinities are taken under those names. -/
def read (s : String) : Except Problem Value :=
  match document s.toList with
  | .ok v => .ok v
  | .error stop => .error (stop.problem s.toList)

end Intake.Json
