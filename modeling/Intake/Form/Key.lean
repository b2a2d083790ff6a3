namespace Intake.Form

/-- A key taken apart: the names on the path to a value, and whether the value is to be appended to a
list there. -/
structure Key where
  path : List String
  append : Bool
  deriving DecidableEq, Repr

namespace Key

def isSeparator (c : Char) : Bool := c = '[' || c = ']' || c = '.'

/-- The stretches between separators, empty ones left out. -/
def segments : List Char → List (List Char)
  | [] => []
  | c :: rest =>
    if isSeparator c then segments rest
    else
      match rest with
      | [] => [[c]]
      | d :: _ =>
        if isSeparator d then [c] :: segments rest
        else
          match segments rest with
          | [] => [[c]]
          | s :: more => (c :: s) :: more

def endsInBrackets (s : List Char) : Bool := "[]".toList.isSuffixOf s

/-- Brackets and points separate the names; `[]` at the end asks for an append. -/
def ofText (key : String) : Key :=
  let s := key.toList
  let append := endsInBrackets s
  let body := if append then s.dropLast.dropLast else s
  ⟨(segments body).map String.ofList, append⟩

end Key

end Intake.Form
