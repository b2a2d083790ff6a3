import Intake.Fault
import Intake.Json.Reader
import Intake.NamedFormat

namespace Intake.Form

/-- A whole number at the start of a text, without leading zeros, and what follows it. -/
def splitWhole : List Char → List Char × List Char
  | [] => ([], [])
  | c :: rest =>
    if c = '0' then ([c], rest)
    else if '1' ≤ c && c ≤ '9' then
      (c :: rest.takeWhile Text.isDigit, rest.dropWhile Text.isDigit)
    else ([], c :: rest)

def isExponent : List Char → Bool
  | e :: rest =>
    let ds := (Coercion.splitSign rest).2
    (e = 'e' || e = 'E') && !ds.isEmpty && ds.all Text.isDigit
  | [] => false

def withoutMinus : List Char → List Char
  | '-' :: rest => rest
  | s => s

/-- A text without one line break at its end writes an integer. -/
def isIntegerText (s : List Char) : Bool :=
  let (whole, rest) := splitWhole (withoutMinus (NamedFormat.withoutFinalBreak s))
  !whole.isEmpty && rest.isEmpty

/-- A text without one line break at its end writes a number with a fraction or an exponent. -/
def isFractionText (s : List Char) : Bool :=
  let (whole, rest) := splitWhole (withoutMinus (NamedFormat.withoutFinalBreak s))
  match rest with
  | '.' :: more =>
    let ds := more.takeWhile Text.isDigit
    let after := more.dropWhile Text.isDigit
    !ds.isEmpty && (after.isEmpty || isExponent after)
  | _ => !whole.isEmpty && isExponent rest

/-- Integers with more digits stay texts. -/
def maxDigits : Nat := 4300

def integerOf (s : List Char) : Value :=
  let t := NamedFormat.withoutFinalBreak s
  if maxDigits < (withoutMinus t).length then .text (String.ofList s)
  else ((Coercion.readInt? t).map Value.int).getD (.text (String.ofList s))

def fractionOf (s : List Char) : Value :=
  match Coercion.readFloat? (NamedFormat.withoutFinalBreak s) with
  | some (.finite sign m e) => .float (.finite sign m e)
  | _ => .text (String.ofList s)

/-- What a text stands for: true or false, null, a number, an array or object in JSON, or else itself. -/
def retype (text : String) : Except Fault Value :=
  let s := text.toList
  let word := String.ofList (Text.lower s)
  if word = "true" then .ok (.bool true)
  else if word = "false" then .ok (.bool false)
  else if word = "null" then .ok .null
  else if isIntegerText s then .ok (integerOf s)
  else if isFractionText s then .ok (fractionOf s)
  else if s.head? = some '\x7b' || s.head? = some '[' then
    match Json.read text with
    | .ok v => .ok v
    | .error .tooDeep => .error .tooDeep
    | .error _ => .ok (.text text)
  else .ok (.text text)

/-- Texts are retyped and other values are left as they are. -/
def retypeValue : Value → Except Fault Value
  | .text s => retype s
  | v => .ok v

end Intake.Form
