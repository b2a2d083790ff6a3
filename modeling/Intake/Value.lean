import Intake.Binary64.Shortest
import Intake.Calendar.Moment
import Intake.Table
import Intake.Text.Quoted

namespace Intake

/-- A universally unique identifier. -/
structure Uuid where
  bits : BitVec 128
  deriving DecidableEq, Repr

namespace Uuid

/-- Thirty-two hexadecimal digits in groups of eight, four, four, four and twelve. -/
def chars (u : Uuid) : List Char :=
  let ds := Text.hex 32 u.bits.toNat
  ds.take 8 ++ '-' :: ((ds.drop 8).take 4 ++ '-' :: ((ds.drop 12).take 4 ++ '-' ::
    ((ds.drop 16).take 4 ++ '-' :: ds.drop 20)))

def text (u : Uuid) : String := String.ofList u.chars

end Uuid

/-- A value as it arrives from outside or leaves the library. -/
inductive Value where
  | null
  | bool (b : Bool)
  | int (n : Int)
  | float (x : Binary64)
  | text (s : String)
  | list (items : List Value)
  | tuple (items : List Value)
  | map (entries : List (String × Value))
  | bytes (data : List UInt8)
  | moment (m : Moment)
  | date (d : Date)
  | uuid (u : Uuid)
  deriving Inhabited

namespace Value

/-- Null and the empty text count as no value at all. -/
def isBlank : Value → Bool
  | .null => true
  | .text s => s = ""
  | _ => false

def isNull : Value → Bool
  | .null => true
  | _ => false

/-- Whether a value counts as something: not null, false, zero or empty. -/
def isTruthy : Value → Bool
  | .null => false
  | .bool b => b
  | .int n => n ≠ 0
  | .float (.finite _ m _) => m ≠ 0
  | .float _ => true
  | .text s => s ≠ ""
  | .list items => !items.isEmpty
  | .tuple items => !items.isEmpty
  | .map entries => !entries.isEmpty
  | .bytes data => !data.isEmpty
  | .moment _ => true
  | .date _ => true
  | .uuid _ => true

/-- The number that a value is; true and false count as one and zero. -/
def number? : Value → Option Number
  | .bool b => some (.int (if b then 1 else 0))
  | .int n => some (.int n)
  | .float x => some (.float x)
  | _ => none

/-- The label of a value's kind on the wire. -/
def kind : Value → String
  | .null => "null"
  | .bool _ => "boolean"
  | .int _ => "integer"
  | .float _ => "float"
  | .text _ => "string"
  | .list _ => "array"
  | .tuple _ => "array"
  | .map _ => "object"
  | .bytes _ => "bytes"
  | .moment _ => "datetime"
  | .date _ => "date"
  | .uuid _ => "UUID"

def natText (n : Nat) : List Char := Nat.toDigits 10 n

/-- The decimal text of an integer. -/
def intText (n : Int) : List Char :=
  if n < 0 then '-' :: natText n.natAbs else natText n.natAbs

def commaJoin : List (List Char) → List Char
  | [] => []
  | [x] => x
  | x :: rest => x ++ ',' :: ' ' :: commaJoin rest

def dateLiteral (d : Date) : List Char :=
  "datetime.date(".toList ++ commaJoin [natText d.year, natText d.month, natText d.day] ++ [')']

def offsetLiteral (o : Offset) : List Char :=
  if o.micros = 0 then "datetime.timezone.utc".toList
  else
    let days := o.micros.fdiv 86400000000
    let rest := o.micros.fmod 86400000000
    let seconds := rest / 1000000
    let micros := rest % 1000000
    let parts :=
      (if days = 0 then [] else ["days=".toList ++ intText days]) ++
      (if seconds = 0 then [] else ["seconds=".toList ++ intText seconds]) ++
      (if micros = 0 then [] else ["microseconds=".toList ++ intText micros])
    "datetime.timezone(datetime.timedelta(".toList ++ commaJoin parts ++ [')', ')']

def momentLiteral (m : Moment) : List Char :=
  let t := m.time
  let clock :=
    if t.micro ≠ 0 then [t.hour, t.minute, t.second, t.micro]
    else if t.second ≠ 0 then [t.hour, t.minute, t.second]
    else [t.hour, t.minute]
  let fields := [m.date.year, m.date.month, m.date.day] ++ clock
  let zone := match m.offset with
    | none => []
    | some o => ["tzinfo=".toList ++ offsetLiteral o]
  "datetime.datetime(".toList ++ commaJoin (fields.map natText ++ zone) ++ [')']

mutual

/-- A value written out as a literal, texts in quotes. -/
def literalChars : Value → List Char
  | .null => "None".toList
  | .bool b => if b then "True".toList else "False".toList
  | .int n => intText n
  | .float x => x.text.toList
  | .text s => Text.quoted s.toList
  | .list items => '[' :: (commaJoin (literalItems items) ++ [']'])
  | .tuple [x] => '(' :: (literalChars x ++ [',', ')'])
  | .tuple items => '(' :: (commaJoin (literalItems items) ++ [')'])
  | .map entries => '\x7b' :: (commaJoin (literalEntries entries) ++ ['\x7d'])
  | .bytes data => Text.quotedBytes data
  | .moment m => momentLiteral m
  | .date d => dateLiteral d
  | .uuid u => "UUID('".toList ++ u.chars ++ ['\'', ')']

def literalItems : List Value → List (List Char)
  | [] => []
  | v :: rest => literalChars v :: literalItems rest

def literalEntries : List (String × Value) → List (List Char)
  | [] => []
  | (k, v) :: rest => (Text.quoted k.toList ++ ':' :: ' ' :: literalChars v) :: literalEntries rest

end

def literal (v : Value) : String := String.ofList v.literalChars

/-- A value written out as a text: a text as it is, temporal values and identifiers in their own
notation, anything else as a literal. -/
def displayChars : Value → List Char
  | .text s => s.toList
  | .moment m => m.isoWith ' '
  | .date d => d.isoChars
  | .uuid u => u.chars
  | v => v.literalChars

def display (v : Value) : String := String.ofList v.displayChars

def numberEqual (a : Number) (w : Value) : Bool :=
  match w.number? with
  | some b => a.equal b
  | none => false

mutual

/-- Equality as the data model sees it: numbers by exact value whatever their kind, maps without
regard to order, and NaN unequal to everything. -/
def equal : Value → Value → Bool
  | .null, .null => true
  | .text s, .text t => s = t
  | .list xs, .list ys => equalItems xs ys
  | .tuple xs, .tuple ys => equalItems xs ys
  | .map es, .map fs => es.length = fs.length && equalEntries es fs
  | .bytes a, .bytes b => a = b
  | .date a, .date b => a = b
  | .uuid a, .uuid b => a = b
  | .moment a, .moment b => a.offset.isSome = b.offset.isSome && a.absolute = b.absolute
  | .bool a, w => numberEqual (.int (if a then 1 else 0)) w
  | .int n, w => numberEqual (.int n) w
  | .float x, w => numberEqual (.float x) w
  | _, _ => false

def equalItems : List Value → List Value → Bool
  | [], [] => true
  | x :: xs, y :: ys => equal x y && equalItems xs ys
  | _, _ => false

def equalEntries : List (String × Value) → List (String × Value) → Bool
  | [], _ => true
  | (k, v) :: rest, fs =>
    (match Table.get? fs k with
      | some w => equal v w
      | none => false) && equalEntries rest fs

end

mutual

/-- Equality of written form: kinds have to agree, NaN equals itself, and the order of the entries of
a map does not count. -/
def same : Value → Value → Bool
  | .null, .null => true
  | .bool a, .bool b => a = b
  | .int a, .int b => a = b
  | .float a, .float b => a = b
  | .text a, .text b => a = b
  | .list xs, .list ys => sameItems xs ys
  | .tuple xs, .tuple ys => sameItems xs ys
  | .map es, .map fs => es.length = fs.length && sameEntries es fs
  | .bytes a, .bytes b => a = b
  | .moment a, .moment b => a = b
  | .date a, .date b => a = b
  | .uuid a, .uuid b => a = b
  | _, _ => false

def sameItems : List Value → List Value → Bool
  | [], [] => true
  | x :: xs, y :: ys => same x y && sameItems xs ys
  | _, _ => false

def sameEntries : List (String × Value) → List (String × Value) → Bool
  | [], _ => true
  | (k, v) :: rest, fs =>
    (match Table.get? fs k with
      | some w => same v w
      | none => false) && sameEntries rest fs

end

def ofNumber : Number → Value
  | .int n => .int n
  | .float x => .float x

/-- A bound as a value, null where there is none. -/
def ofBound (b : Option Number) : Value := b.elim .null ofNumber

def texts (xs : List String) : Value := .list (xs.map .text)

def ofOption (s : Option String) : Value := s.elim .null .text

end Value

end Intake
