import Intake.Fault
import Intake.Text.Case
import Intake.Text.Order
import Intake.Value

namespace Intake

/-- What groups issues in an answer. -/
inductive Grouping where
  | field
  | code
  | none
  deriving DecidableEq, Repr

/-- How much an answer says of each issue. -/
inductive DetailLevel where
  | minimal
  | standard
  | full
  deriving DecidableEq, Repr

def Grouping.text : Grouping → String
  | .field => "field"
  | .code => "code"
  | .none => "none"

def Grouping.all : List Grouping := [.field, .code, .none]

def DetailLevel.text : DetailLevel → String
  | .minimal => "minimal"
  | .standard => "standard"
  | .full => "full"

def DetailLevel.all : List DetailLevel := [.minimal, .standard, .full]

/-- What can be set from the environment. -/
structure Settings where
  serviceName : String
  logLevel : String
  logJson : Bool
  grouping : Grouping
  detail : DetailLevel
  includeNotices : Bool
  deriving DecidableEq, Repr

namespace Settings

def usual : Settings := ⟨"formwork", "INFO", false, .none, .standard, true⟩

/-- The value of a variable; names count in either case, and of several the last. -/
def inEnv? (env : Table String) (name : String) : Option String :=
  let wanted := Text.lower ("FORMWORK_" ++ name).toList
  (env.reverse.find? fun e => Text.lower e.1.toList = wanted).map Prod.snd

def asciiLower (s : String) : String := String.ofList (s.toList.map Char.toLower)

def switch? (s : String) : Option Bool :=
  let word := asciiLower s
  if ["1", "t", "true", "y", "yes", "on"].contains word then some true
  else if ["0", "f", "false", "n", "no", "off"].contains word then some false
  else none

/-- A setting as the environment gives it; `none` where its text makes no sense. -/
def setting {α : Type} (env : Table String) (name : String) (usual : α) (read : String → Option α) :
    Option α :=
  match inEnv? env name with
  | none => some usual
  | some s => read s

def missing {α : Type} (name : String) (x : Option α) : List String := if x.isNone then [name] else []

/-- Settings from the environment, or the names of those whose text makes no sense. -/
def ofEnv (env : Table String) : Except Fault Settings :=
  let json := setting env "LOG_JSON" usual.logJson switch?
  let grouping := setting env "ERROR_GROUP_BY" usual.grouping fun s =>
    Grouping.all.find? (·.text = s)
  let detail := setting env "ERROR_DETAIL_LEVEL" usual.detail fun s =>
    DetailLevel.all.find? (·.text = s)
  let notices := setting env "ERROR_INCLUDE_WARNINGS" usual.includeNotices switch?
  match json, grouping, detail, notices with
  | some json, some grouping, some detail, some notices =>
    .ok ⟨(inEnv? env "SERVICE_NAME").getD usual.serviceName,
      (inEnv? env "LOG_LEVEL").getD usual.logLevel, json, grouping, detail, notices⟩
  | _, _, _, _ =>
    .error (.badSettings (missing "ERROR_DETAIL_LEVEL" detail ++ missing "ERROR_GROUP_BY" grouping ++
      missing "ERROR_INCLUDE_WARNINGS" notices ++ missing "LOG_JSON" json))

def toValue (s : Settings) : Value :=
  .map [("SERVICE_NAME", .text s.serviceName), ("LOG_LEVEL", .text s.logLevel),
    ("LOG_JSON", .bool s.logJson), ("ERROR_GROUP_BY", .text s.grouping.text),
    ("ERROR_DETAIL_LEVEL", .text s.detail.text), ("ERROR_INCLUDE_WARNINGS", .bool s.includeNotices)]

end Settings

end Intake
