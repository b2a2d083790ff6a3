import Intake.Schema.Field
import Intake.Text.Escaped

namespace Intake

/-- One way of cleaning texts. -/
inductive Cleaning where
  | trim
  | removeMarkup
  | escapeMarkup
  | lowercase
  | uppercase
  | removeUnprintable
  | collapseBlanks
  deriving DecidableEq, Repr

namespace Cleaning

def text : Cleaning → String
  | .trim => "trim_whitespace"
  | .removeMarkup => "remove_html"
  | .escapeMarkup => "escape_html"
  | .lowercase => "lowercase"
  | .uppercase => "uppercase"
  | .removeUnprintable => "remove_non_printable"
  | .collapseBlanks => "normalize_whitespace"

def all : List Cleaning := [.trim, .removeMarkup, .escapeMarkup, .lowercase, .uppercase,
  .removeUnprintable, .collapseBlanks]

def ofValue? (v : Value) : Except Fault Cleaning := optionNamed? "SanitizeOption" all text v

def isKept (c : Char) : Bool := Text.isPrintable c || c = '\t' || c = '\n' || c = '\r'

/-- A text without its tags: what stands from a `<` to the next `>`. -/
def withoutTags : List Char → List Char
  | [] => []
  | c :: rest =>
    if c = '<' && rest.contains '>' then withoutTags ((rest.dropWhile (· ≠ '>')).drop 1)
    else c :: withoutTags rest
termination_by s => s.length
decreasing_by
  · have : (rest.dropWhile (· ≠ '>')).length ≤ rest.length := (List.dropWhile_sublist _).length_le
    simp only [List.length_drop, List.length_cons]
    omega
  · simp

/-- Every stretch of blanks made one space. -/
def collapsed : List Char → List Char
  | [] => []
  | c :: rest =>
    if Text.isBlank c then
      match rest with
      | [] => [' ']
      | d :: _ => if Text.isBlank d then collapsed rest else ' ' :: collapsed rest
    else c :: collapsed rest

end Cleaning

/-- Cleans the texts of payloads. If fields are named, only the values of these keys at the top are
cleaned. -/
structure Sanitizer where
  options : List Cleaning
  fields : List String
  deriving DecidableEq, Repr

namespace Sanitizer

def forText : Sanitizer := ⟨[.trim, .removeUnprintable, .collapseBlanks], []⟩

def forMarkup : Sanitizer := ⟨[.trim, .escapeMarkup], []⟩

def forUsername : Sanitizer := ⟨[.trim, .lowercase, .removeUnprintable, .removeMarkup], []⟩

def forEmail : Sanitizer := ⟨[.trim, .lowercase], []⟩

/-- A step taken only where an option asks for it. -/
def step (s : Sanitizer) (option : Cleaning) (f : List Char → List Char) (t : List Char) :
    List Char :=
  if s.options.contains option then f t else t

/-- The steps that are asked for, in a fixed order. Lower case wins over upper case. -/
def cleanChars (s : Sanitizer) (t : List Char) : List Char :=
  let t := s.step .removeUnprintable (·.filter Cleaning.isKept) t
  let t := s.step .removeMarkup Cleaning.withoutTags t
  let t := s.step .escapeMarkup Text.escaped t
  let t := s.step .collapseBlanks Cleaning.collapsed t
  let t := s.step .trim Text.trim t
  if s.options.contains .lowercase then Text.lower t else s.step .uppercase Text.upper t

def cleanText (s : Sanitizer) (t : String) : String := String.ofList (s.cleanChars t.toList)

mutual

/-- Every text inside a value cleaned. -/
def cleanValue (s : Sanitizer) : Value → Value
  | .text t => .text (s.cleanText t)
  | .map entries => .map (cleanEntries s entries)
  | .list items => .list (cleanItems s items)
  | v => v

def cleanItems (s : Sanitizer) : List Value → List Value
  | [] => []
  | v :: rest => cleanValue s v :: cleanItems s rest

def cleanEntries (s : Sanitizer) : List (String × Value) → List (String × Value)
  | [] => []
  | (k, v) :: rest => (k, cleanValue s v) :: cleanEntries s rest

end

/-- A payload cleaned. -/
def clean (s : Sanitizer) (v : Value) : Value :=
  match v with
  | .map entries =>
    if s.fields.isEmpty then s.cleanValue v
    else .map (entries.map fun (k, w) => (k, if s.fields.contains k then s.cleanValue w else w))
  | v => s.cleanValue v

end Sanitizer

end Intake
