import Intake.Fault
import Intake.Issue
import Intake.NamedFormat
import Intake.Pattern.Search

namespace Intake

/-- How a format is checked. -/
inductive FormatCheck where
  | named (f : NamedFormat)
  | search (p : Pattern.Compiled)

/-- What is asked of an uploaded file. -/
structure UploadRules where
  maxSize : Option Number
  minSize : Option Number
  types : List String
  extensions : List String
  filenamePattern : Option (String × Pattern.Compiled)

/-- What is asked of the value of one field. -/
inductive Constraint where
  | length (min max : Option Number)
  | range (min max : Option Number)
  | format (name : String) (pattern message : Option String) (check : FormatCheck)
  | enum (allowed : List String)
  | pattern (regex : String) (message : Option String) (compiled : Pattern.Compiled)
  | upload (rules : UploadRules)

/-- Issues found, and the fault that cut the search short if one did. -/
structure Findings where
  issues : List Issue
  fault : Option Fault

namespace Findings

def clean : Findings := ⟨[], none⟩

def ofIssue (i : Issue) : Findings := ⟨[i], none⟩

def when (b : Bool) (i : Issue) : Findings := if b then ofIssue i else clean

def stop (f : Fault) : Findings := ⟨[], some f⟩

/-- Two searches in turn; the second one takes place unless the first was cut short. -/
def andThen (a b : Findings) : Findings :=
  match a.fault with
  | some _ => a
  | none => ⟨a.issues ++ b.issues, b.fault⟩

end Findings

namespace Constraint

def comma (xs : List String) : String := ", ".intercalate xs

def below (x : Number) (min : Option Number) : Bool := min.any fun m => x.lt m

def above (x : Number) (max : Option Number) : Bool := max.any fun m => m.lt x

/-- How many characters or members a value has. -/
def size? : Value → Option Nat
  | .text s => some s.length
  | .list items => some items.length
  | .tuple items => some items.length
  | _ => none

/-- The text of a value as an allowed value is written. -/
def choiceText : Value → String
  | .bool b => if b then "true" else "false"
  | v => v.display

def checkLength (path : String) (min max : Option Number) (v : Value) : Findings :=
  match size? v with
  | none => .clean
  | some n =>
    let x : Number := .int n
    .when (below x min || above x max)
      (.length path (Value.ofBound min) (Value.ofBound max) (.int n))

def checkRange (path : String) (min max : Option Number) (v : Value) : Findings :=
  match v with
  | .int n =>
    .when (below (.int n) min || above (.int n) max)
      (.range path (Value.ofBound min) (Value.ofBound max) v)
  | .float x =>
    .when (below (.float x) min || above (.float x) max)
      (.range path (Value.ofBound min) (Value.ofBound max) v)
  | _ => .clean

def checkFormat (path name : String) (message : Option String) (check : FormatCheck) (v : Value) :
    Findings :=
  match v with
  | .text s =>
    let holds := match check with
      | .named f => f.holds s.toList
      | .search p => .ok (p.found s)
    match holds with
    | .ok b => .when (!b) (.format path name v message)
    | .error f => .stop (.badArgument f.message)
  | _ => .clean

def checkEnum (path : String) (allowed : List String) (v : Value) : Findings :=
  if v.isNull then .clean
  else
    .when (!allowed.contains (choiceText v))
      (.custom path ("Field '" ++ path ++ "' must be one of: " ++ comma allowed)
        Code.invalidEnumValue.text (some [("allowed", Value.texts allowed), ("value", v)]))

def checkPattern (path regex : String) (message : Option String) (p : Pattern.Compiled) (v : Value) :
    Findings :=
  match v with
  | .null => .clean
  | .map _ => .clean
  | .list _ => .clean
  | v =>
    let text := choiceText v
    .when (!p.found text)
      (.custom path
        (Issue.messageOr message ("Field '" ++ path ++ "' does not match required pattern"))
        Code.patternMismatch.text (some [("pattern", .text regex), ("value", .text text)]))

/-- What follows the last point of a file name, in lower case. -/
def extensionOf (filename : String) : String :=
  let s := filename.toList
  if s.contains '.' then String.ofList (Text.lower (s.reverse.takeWhile (· ≠ '.')).reverse) else ""

/-- The media type alone: parameters left out, in lower case. -/
def mediaTypeOf (contentType : String) : String :=
  String.ofList (Text.lower (Text.trim (contentType.toList.takeWhile (· ≠ ';'))))

/-- A size checked against one bound. -/
def checkSize (size : Value) (bound : Option Number) (fails : Number → Number → Bool)
    (issue : Value → Issue) : Findings :=
  match bound with
  | none => .clean
  | some b =>
    match size.number? with
    | some n => .when (fails n b) (issue (Value.ofNumber b))
    | none => .stop .wrongKind

def checkUploadType (path filename : String) (types : List String) (contentType : Value) : Findings :=
  if types.isEmpty then .clean
  else if !contentType.isTruthy then
    .ofIssue (.custom path ("File '" ++ filename ++ "' has no content type")
      Code.missingContentType.text none)
  else
    match contentType with
    | .text t =>
      .when (!types.contains (mediaTypeOf t))
        (.custom path ("File type '" ++ t ++ "' is not allowed. Allowed: " ++ comma types)
          Code.invalidContentType.text (some [("allowed", Value.texts types)]))
    | .bytes _ => .stop .wrongKind
    | _ => .stop .noAttribute

def checkUploadName (path filename : String) (r : UploadRules) : Findings :=
  let extension := extensionOf filename
  Findings.andThen
    (.when (!r.extensions.isEmpty && !r.extensions.contains extension)
      (.custom path
        ("File extension '" ++ extension ++ "' is not allowed. Allowed: " ++ comma r.extensions)
        Code.invalidFileExtension.text (some [("allowed", Value.texts r.extensions)])))
    (match r.filenamePattern with
      | none => .clean
      | some (source, p) =>
        .when (!p.found filename)
          (.custom path ("Filename '" ++ filename ++ "' does not match required pattern")
            Code.invalidFilenamePattern.text (some [("pattern", .text source)])))

/-- A value unless it counts as nothing. -/
def orElse (v default : Value) : Value := if v.isTruthy then v else default

def checkUpload (path : String) (r : UploadRules) (v : Value) : Findings :=
  match v with
  | .null => .clean
  | .map entries =>
    match Table.get? entries "filename" with
    | none => notAFile
    | some name =>
      let size := orElse ((Table.get? entries "size").getD .null) (.int 0)
      let filename := (orElse name (.text "")).display
      let sizeIssue := fun (text : String) (code : Code) (key : String) (bound : Value) =>
        Issue.custom path ("File '" ++ filename ++ "' " ++ text ++ " of " ++ bound.display ++ " bytes")
          code.text (some [(key, bound), ("size", size)])
      Findings.andThen
        (checkSize size r.maxSize (fun n b => b.lt n)
          (sizeIssue "exceeds maximum size" .fileTooLarge "max_size"))
        (Findings.andThen
          (checkSize size r.minSize (fun n b => n.lt b)
            (sizeIssue "is smaller than minimum size" .fileTooSmall "min_size"))
          (Findings.andThen
            (checkUploadType path filename r.types ((Table.get? entries "content_type").getD .null))
            (checkUploadName path filename r)))
  | _ => notAFile
where
  notAFile : Findings :=
    .ofIssue (.custom path ("Field '" ++ path ++ "' must be a file upload") Code.notAFile.text none)

/-- What a constraint finds in the value of a field. -/
def check (path : String) (v : Value) : Constraint → Findings
  | .length min max => checkLength path min max v
  | .range min max => checkRange path min max v
  | .format name _ message check => checkFormat path name message check v
  | .enum allowed => checkEnum path allowed v
  | .pattern regex message p => checkPattern path regex message p v
  | .upload rules => checkUpload path rules v

/-- A constraint as a value. -/
def describe : Constraint → Value
  | .length min max =>
    .map [("kind", .text "length"), ("min", Value.ofBound min), ("max", Value.ofBound max)]
  | .range min max =>
    .map [("kind", .text "range"), ("min", Value.ofBound min), ("max", Value.ofBound max)]
  | .format name source _ _ =>
    .map [("kind", .text "format"), ("format", .text name), ("pattern", Value.ofOption source)]
  | .enum allowed => .map [("kind", .text "enum"), ("allowed", Value.texts allowed)]
  | .pattern regex _ _ => .map [("kind", .text "pattern"), ("pattern", .text regex)]
  | .upload r =>
    .map [("kind", .text "file_upload"), ("max_size", Value.ofBound r.maxSize),
      ("min_size", Value.ofBound r.minSize), ("allowed_types", Value.texts r.types),
      ("allowed_extensions", Value.texts r.extensions)]

def isNegative (b : Option Number) : Bool := b.any fun n => n.lt (.int 0)

def areCrossed (min max : Option Number) : Bool :=
  match min, max with
  | some a, some b => b.lt a
  | _, _ => false

/-- Bounds on a size; there has to be one, none negative and the lower not above the upper. -/
def length? (field : String) (min max : Option Number) : Except DefinitionFault Constraint :=
  if min.isNone && max.isNone then .error (.lengthWithoutBounds field)
  else if isNegative min || isNegative max then .error (.lengthNegative field)
  else if areCrossed min max then .error (.lengthCrossed field)
  else .ok (.length min max)

/-- Bounds on a number; there has to be one, and the lower may not be above the upper. -/
def range? (field : String) (min max : Option Number) : Except DefinitionFault Constraint :=
  if min.isNone && max.isNone then .error (.rangeWithoutBounds field)
  else if areCrossed min max then .error (.rangeCrossed field)
  else .ok (.range min max)

/-- A pattern, or the fault that a malformed one gives rise to. -/
def compiled? (source : String) (malformed : String → DefinitionFault) :
    Except Fault Pattern.Compiled :=
  match Pattern.compile source with
  | .ok p => .ok p
  | .error (.malformed message) => .error (.definition (malformed message))
  | .error .tooLarge => .error .tooLarge
  | .error .mixedAlphabets => .error (.badArgument "ASCII and UNICODE flags are incompatible")

/-- A format by its name, by a pattern of its own, or with the name as the pattern. -/
def format? (field name : String) (pattern message : Option String) : Except Fault Constraint :=
  match pattern, NamedFormat.ofName? name with
  | none, some f => .ok (.format name pattern message (.named f))
  | _, _ =>
    if name = "custom" ∧ pattern = none then .error (.definition (.formatWithoutPattern field))
    else (compiled? (pattern.getD name) (.badFormatPattern field)).map fun p =>
      .format name pattern message (.search p)

def enum? (field : String) (allowed : List Value) : Except DefinitionFault Constraint :=
  if allowed.isEmpty then .error (.emptyEnum field) else .ok (.enum (allowed.map choiceText))

def pattern? (field regex : String) (message : Option String) : Except Fault Constraint :=
  (compiled? regex (.badPattern field)).map (.pattern regex message)

/-- Rules for uploads; types and extensions are kept in lower case, extensions without points in
front. -/
def upload? (field : String) (maxSize minSize : Option Number) (types extensions : List String)
    (filenamePattern : Option String) : Except Fault Constraint :=
  let types := types.map lowerText
  let extensions := extensions.map fun e =>
    String.ofList ((Text.lower e.toList).dropWhile (· = '.'))
  match filenamePattern with
  | none => .ok (.upload ⟨maxSize, minSize, types, extensions, none⟩)
  | some source => (compiled? source (.badFilenamePattern field)).map fun p =>
    .upload ⟨maxSize, minSize, types, extensions, some (source, p)⟩

end Constraint

end Intake
