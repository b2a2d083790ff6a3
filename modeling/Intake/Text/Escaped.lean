namespace Intake.Text

/-- A character that markup would take for its own is written as an entity. -/
def escapedChar (c : Char) : List Char :=
  if c = '&' then "&amp;".toList
  else if c = '<' then "&lt;".toList
  else if c = '>' then "&gt;".toList
  else if c = '"' then "&quot;".toList
  else if c = '\'' then "&#x27;".toList
  else [c]

def escaped (s : List Char) : List Char := s.flatMap escapedChar

end Intake.Text
