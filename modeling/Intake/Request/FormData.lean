import Intake.Multipart.Body

namespace Intake.Request

/-- Why the form in a request's body is refused. -/
inductive FormProblem where
  | noBoundary
  | notMultipart
  | noName
  | tooManyFiles
  | tooManyFields
  | partTooLong
  deriving DecidableEq, Repr

/-- A form may not have more files, nor more other fields, than this. -/
def maxEntries : Nat := 1000

/-- The content of a field may not be longer than this. -/
def maxFieldSize : Nat := 1024 * 1024

def FormProblem.message : FormProblem → String
  | .noBoundary => "Missing boundary in multipart."
  | .notMultipart => "Invalid multipart data."
  | .noName => "The Content-Disposition header field \"name\" must be provided."
  | .tooManyFiles => "Too many files. Maximum number of files is " ++ toString maxEntries ++ "."
  | .tooManyFields => "Too many fields. Maximum number of fields is " ++ toString maxEntries ++ "."
  | .partTooLong => "Part exceeded maximum size of " ++ toString (maxFieldSize / 1024) ++ "KB."

def FormProblem.fault (contentType : Option String) (p : FormProblem) : Fault :=
  Multipart.malformed contentType p.message

/-- Octets as text in a charset; those that are no text in it stand for the characters of their numbers. -/
def readText (charset : String) (data : List UInt8) : Except Fault String :=
  match Charset.decodeNamed charset data with
  | .ok s => .ok s
  | .error problem =>
    match Payload.charsetFault (fun m => ⟨m, none⟩) problem with
    | .payload _ => .ok (String.ofList (Text.ofLatin1 data))
    | f => .error f

/-- How many files and other fields have been met. -/
structure Counts where
  files : Nat
  fields : Nat

/-- The entry of one part: a record for a file, and a text that is retyped for any other field. -/
def formEntry (charset : String) (contentType : Option String) (counts : Counts)
    (p : Multipart.Part) : Except Fault ((String × Value) × Counts) := do
  let disposition := Multipart.HeaderValue.ofOctets (p.header "content-disposition")
  let some name := disposition.get? "name" | throw (FormProblem.noName.fault contentType)
  let name ← readText charset name
  match disposition.get? "filename" with
  | some filename =>
    if maxEntries ≤ counts.files then throw (FormProblem.tooManyFiles.fault contentType)
    let filename ← readText charset filename
    let declared := p.headers.find? fun h => Text.lower (Text.ofLatin1 h.1) = "content-type".toList
    let kind := (declared.map fun h => String.ofList (Text.ofLatin1 h.2))
    return ((name, Multipart.fileRecord (.text filename) (Value.ofOption kind) (.int p.content.length)),
      { counts with files := counts.files + 1 })
  | none =>
    if maxEntries ≤ counts.fields then throw (FormProblem.tooManyFields.fault contentType)
    if maxFieldSize < p.content.length then throw (FormProblem.partTooLong.fault contentType)
    let text ← readText charset p.content
    return ((name, ← Form.retype text), { counts with fields := counts.fields + 1 })

/-- The entries of parts in order; a part that was cut off is looked at and left out. -/
def formEntries (charset : String) (contentType : Option String) (unfinished : Option Multipart.Part) :
    Counts → List Multipart.Part → Except Fault (List (String × Value))
  | counts, [] => do
    if let some p := unfinished then
      let _ ← formEntry charset contentType counts p
    return []
  | counts, p :: rest => do
    let (entry, counts) ← formEntry charset contentType counts p
    let entries ← formEntries charset contentType unfinished counts rest
    return entry :: entries

/-- The entries of the form in a request's body. A form may end before its closing boundary. -/
def readForm (contentType : Option String) (body : List UInt8) :
    Except Fault (List (String × Value)) := do
  let header ← Multipart.contentTypeValue contentType
  if header.main ≠ "multipart/form-data".toUTF8.toList then return []
  let charset :=
    ((header.get? "charset").map fun c => String.ofList (Text.ofLatin1 c)).getD "utf-8"
  let some boundary := header.get? "boundary" | throw (FormProblem.noBoundary.fault contentType)
  if Multipart.maxBoundary < boundary.length then throw .badParserSetup
  let m := Multipart.Message.read boundary body
  let unfinished := match m.ending with
    | .cut unfinished => unfinished
    | _ => none
  let entries ← formEntries charset contentType unfinished ⟨0, 0⟩ m.parts
  match m.ending with
  | .malformed _ => throw (FormProblem.notMultipart.fault contentType)
  | _ => return entries

end Intake.Request
