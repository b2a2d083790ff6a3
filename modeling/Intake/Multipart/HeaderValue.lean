import Intake.Table
import Intake.Text.Blank
import Intake.Text.Case
import Intake.Text.Latin1
import Intake.Text.Split

namespace Intake.Multipart

/-- The value of a header field: what stands at its start, and parameters under their names. -/
structure HeaderValue where
  main : List UInt8
  parameters : Table (List UInt8)

namespace HeaderValue

/-- The stretches between semicolons. A semicolon inside quotes separates nothing, and a quote after a
backslash neither opens nor closes. -/
def stretches (isOpen isEscaped : Bool) : List Char → List (List Char)
  | [] => [[]]
  | c :: rest =>
    if c = ';' && !isOpen then [] :: stretches false false rest
    else
      match stretches (if c = '"' && !isEscaped then !isOpen else isOpen) (c = '\\') rest with
      | [] => [[c]]
      | s :: more => (c :: s) :: more

def withoutEscape (mark : Char) : List Char → List Char
  | '\\' :: c :: rest =>
    if c = mark then c :: withoutEscape mark rest else '\\' :: withoutEscape mark (c :: rest)
  | c :: rest => c :: withoutEscape mark rest
  | [] => []

def isEnclosed (first last : Char) (s : List Char) : Bool :=
  1 < s.length && s.head? = some first && s.getLast? = some last

/-- A parameter's value without quotes or angle brackets around it. -/
def unquoted (s : List Char) : List Char :=
  if isEnclosed '"' '"' s then withoutEscape '"' (withoutEscape '\\' (s.drop 1).dropLast)
  else if isEnclosed '<' '>' s then (s.drop 1).dropLast
  else s

/-- The name and the value of a parameter; a name without a value stands as it is. -/
def parameter (s : List Char) : List Char × List Char :=
  if s.contains '=' then
    let (name, value) := Text.splitFirst '=' s
    (Text.lower (Text.trim name), Text.trim value)
  else (Text.trim s, [])

def isNameChar (c : Char) : Bool := c.isAlphanum || c = '_'

/-- Names with an asterisk belong to values in pieces or with a charset, which are left out. -/
def isExtended (name : List Char) : Bool :=
  (name.takeWhile isNameChar).length ≠ 0 && (name.dropWhile isNameChar).head? = some '*'

/-- The last part of a path that names a drive or a share. -/
def withoutDirectories (s : List Char) : List Char :=
  if (s.drop 1).take 2 = [':', '\\'] || s.take 2 = ['\\', '\\'] then
    ((Text.splitOn '\\' s).getLast?).getD []
  else s

/-- A parameter in octets. -/
def octets? (name value : List Char) : Option (String × List UInt8) := do
  let _ ← Text.latin1? name
  let v := unquoted value
  let data ← Text.latin1? (if name = "filename".toList then withoutDirectories v else v)
  return (String.ofList name, data)

/-- Takes a header field apart, unless it holds characters that cannot stand in one. -/
def ofText? (s : List Char) : Option HeaderValue := do
  if !s.contains ';' then return ⟨← Text.latin1? (Text.trim (Text.lower s)), []⟩
  let found := (stretches false false s).map parameter
  let main ← Text.latin1? ((found.head?.map Prod.fst).getD [])
  let rest := (found.drop 1).filter fun p => !isExtended p.1
  return ⟨main, Table.ofPairs (← rest.mapM fun p => octets? p.1 p.2)⟩

/-- Takes a header field in octets apart. -/
def ofOctets (data : List UInt8) : HeaderValue :=
  (ofText? (Text.ofLatin1 data)).getD ⟨data, []⟩

def get? (h : HeaderValue) (name : String) : Option (List UInt8) := Table.get? h.parameters name

end HeaderValue

end Intake.Multipart
