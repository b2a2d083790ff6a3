import Intake.Table
import Intake.Text.Blank
import Intake.Text.Split

namespace Intake.Request

def octalValue? (c : Char) : Option Nat :=
  if '0' ≤ c && c ≤ '7' then some (c.toNat - 48) else none

/-- The character that three octal digits write. -/
def octal? : List Char → Option Char
  | a :: b :: c :: _ => do
    let high ← octalValue? a
    let n := 64 * high + 8 * (← octalValue? b) + (← octalValue? c)
    if high < 4 then some (Char.ofNat n) else none
  | _ => none

/-- Backslashes undone: before three octal digits, and before any character but a line break. -/
def withoutBackslashes : List Char → List Char
  | [] => []
  | c :: rest =>
    if c = '\\' then
      match octal? rest with
      | some d => d :: withoutBackslashes (rest.drop 3)
      | none =>
        match rest.head? with
        | some d =>
          if d = '\n' then '\\' :: withoutBackslashes rest else d :: withoutBackslashes (rest.drop 1)
        | none => ['\\']
    else c :: withoutBackslashes rest
termination_by s => s.length
decreasing_by
  all_goals simp only [List.length_drop, List.length_cons]
  all_goals omega

/-- The value of a cookie without quotes around it. -/
def cookieValue (s : List Char) : List Char :=
  if 2 ≤ s.length && s.head? = some '"' && s.getLast? = some '"' then
    withoutBackslashes (s.drop 1).dropLast
  else s

/-- A cookie's name and value; one without an equals sign has no name. -/
def cookie (s : List Char) : List Char × List Char :=
  let (name, value) := if s.contains '=' then Text.splitFirst '=' s else ([], s)
  (Text.trim name, Text.trim value)

/-- The cookies of a header under their names; of several of one name the last counts. -/
def cookies (header : String) : Table String :=
  let found := (Text.splitOn ';' header.toList).map cookie
  Table.ofPairs ((found.filter fun c => !(c.1.isEmpty && c.2.isEmpty)).map fun (name, value) =>
    (String.ofList name, String.ofList (cookieValue value)))

end Intake.Request
