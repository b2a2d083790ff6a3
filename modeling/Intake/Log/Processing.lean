import Intake.Event
import Intake.Settings
import Intake.Text.Utf8

namespace Intake.Log

/-- What is logged under an event's name, the name itself among it. -/
abbrev Fields := Table Value

def redacted : Value := .text "[REDACTED]"

def sensitiveKeys : List String :=
  ["password", "token", "secret", "authorization", "cookie", "api_key", "access_token"]

def isSensitive (key : String) : Bool := sensitiveKeys.contains (lowerText key)

/-- Containers nested more deeply are left as they are. -/
def maxDepth : Nat := 6

mutual

/-- A value under a key: hidden if the key is that of a credential, and otherwise searched for such
keys as deep as allowed. -/
def scrub (key : String) (depth : Nat) : Value → Value
  | .map entries =>
    if isSensitive key then redacted
    else if maxDepth ≤ depth then .map entries
    else .map (scrubEntries (depth + 1) entries)
  | .list items =>
    if isSensitive key then redacted
    else if maxDepth ≤ depth then .list items
    else .list (scrubItems (depth + 1) items)
  | .tuple items =>
    if isSensitive key then redacted
    else if maxDepth ≤ depth then .tuple items
    else .list (scrubItems (depth + 1) items)
  | v => if isSensitive key then redacted else v

def scrubItems (depth : Nat) : List Value → List Value
  | [] => []
  | v :: rest => scrub "" depth v :: scrubItems depth rest

def scrubEntries (depth : Nat) : List (String × Value) → List (String × Value)
  | [] => []
  | (k, v) :: rest => (k, scrub k depth v) :: scrubEntries depth rest

end

/-- Credentials hidden. -/
def redact (fields : Fields) : Fields := scrubEntries 0 fields

def maxLength : Nat := 200

/-- A text that is too long, cut, and its length. -/
def clipped : Value → Value
  | .text s =>
    if maxLength < s.length then
      .text (String.ofList (s.toList.take maxLength) ++ "... (" ++ toString s.length ++ " chars)")
    else .text s
  | v => v

/-- Long texts shortened, the event's name aside. -/
def clip (fields : Fields) : Fields :=
  fields.map fun (k, v) => (k, if k = "event" then v else clipped v)

def version : String := "0.1.0"

def withUsual (fields : Fields) (key value : String) : Fields :=
  if Table.has fields key then fields else Table.put fields key (.text value)

/-- The service and its version added where they are not given. -/
def addService (s : Settings) (fields : Fields) : Fields :=
  withUsual (withUsual fields "service" s.serviceName) "version" version

/-- Octets at the top read as text. -/
def decodeOctets (fields : Fields) : Fields :=
  fields.map fun (k, v) =>
    (k, match v with
      | .bytes data => .text (String.ofList (Text.utf8Replacing data))
      | v => v)

end Intake.Log
