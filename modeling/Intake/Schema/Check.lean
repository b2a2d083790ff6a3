import Intake.Outcome
import Intake.Schema.Definition

namespace Intake

/-- A part of a run: what it does to the state, and the fault that stops the run if there is one. -/
abbrev Step := Context → Context × Option Fault

namespace Step

def done : Step := fun c => (c, none)

/-- Two parts in turn; the second takes place unless the first stops the run. -/
def andThen (a b : Step) : Step := fun c =>
  match a c with
  | (c, none) => b c
  | (c, some f) => (c, some f)

def all : List Step → Step
  | [] => done
  | s :: rest => andThen s (all rest)

end Step

/-- What a run comes to, unless a fault stopped it, and what it says to the log. -/
structure Verdict where
  result : Except Fault (Outcome (Table Value))
  events : List Event

/-- The place of something inside a value, the value's own place given. -/
def joinPath (parent child : String) : String :=
  if child = "$" then parent
  else if child.toList.head? = some '[' then parent ++ child
  else parent ++ "." ++ child

namespace Outline

/-- Values sent under the aliases of fields whose names are absent go to those names. -/
def resolveAliases (o : Outline) (data : Table Value) : Except Fault (Table Value) :=
  let sent := o.allFields.filterMap fun f =>
    match f.alias? with
    | some a => if Table.has data a && !Table.has data f.name then some (f.name, a) else none
    | none => none
  sent.foldlM (fun d (name, a) =>
    match Table.get? d a with
    | some v => .ok (Table.put (Table.remove d a) name v)
    | none => .error .missingKey) data

def isMissing (data : Table Value) (name : String) : Bool :=
  ((Table.get? data name).getD .null).isBlank

/-- A required field that is absent, null or empty is reported. -/
def checkPresence (f : Field) : Step := fun c =>
  if f.required && isMissing c.data f.name then (c.addIssue (.required f.name), none) else (c, none)

/-- A value as the map or the list of maps that a nested schema looks at, its entries as they were
sent. Text is read as JSON first. -/
def nestedContainer (many : Bool) (v : Value) : Coerced :=
  let shaped : Value → Coerced
    | .list items => if many then .accepted (.list items) [] else .refused
    | .tuple items => if many then .accepted (.list items) [] else .refused
    | .map entries => if many then .refused else .accepted (.map entries) []
    | _ => .refused
  match v with
  | .text s =>
    match Json.read s with
    | .ok w => shaped w
    | .error .tooDeep => .faulty .tooDeep
    | .error _ => .refused
  | v => shaped v

def dropped (name type : String) (p : Position) : Notice :=
  let path := match p with
    | .index n => name ++ "[" ++ toString n ++ "]"
    | .key k => name ++ "." ++ k
  ⟨path, "Value at '" ++ path ++ "' could not be converted to " ++ type ++ " and was dropped",
    Code.elementDropped.text⟩

/-- The value of a field that is there is brought to its type, and then to its validators. `many` is
given for a field with a nested schema. -/
def checkField (o : Outline) (many : Option Bool) (f : Field) : Step := fun c =>
  match Table.get? c.data f.name with
  | none => (c, none)
  | some .null => (c.setCoerced f.name .null, none)
  | some v =>
    if f.required && v.isBlank then (c, none)
    else
      let (coerced, events) := match many with
        | some many => (nestedContainer many v, [])
        | none => (o.conversions.coerce f.type v, o.conversions.events f.type v)
      let c := c.log events
      match coerced with
      | .faulty fault => (c, some fault.fault)
      | .refused => (c.addIssue (.notCoercible f.name v f.type), none)
      | .accepted w positions =>
        Validator.runAll f.validators
          ((c.setCoerced f.name w).addNotices (positions.map (dropped f.name f.type)))

/-- The groups that apply in a state. -/
def activeGroups (o : Outline) (c : Context) : List Group := o.groups.filter (·.isActive c)

/-- The fields of groups; of fields with one name the first counts. -/
def groupFields (groups : List Group) : List Field :=
  (groups.flatMap (·.fields)).foldl
    (fun fs f => if fs.any (·.name = f.name) then fs else fs ++ [f]) []

def checkGroupField (o : Outline) (f : Field) : Step :=
  Step.andThen (checkPresence f) (o.checkField none f)

/-- Keys that are not declared. -/
def unknownKeys (o : Outline) (data : Table Value) : List String :=
  (Table.names data).filter fun k => !o.allNames.contains k

def reportUnknown (o : Outline) : Step := fun c =>
  let keys := o.unknownKeys c.data
  match o.unknown with
  | .warn =>
    (c.addNotices (keys.map fun k =>
      ⟨k, "Field '" ++ k ++ "' is not defined in schema " ++ o.name, Code.unknownField.text⟩), none)
  | .forbid =>
    (c.addIssues (keys.map fun k =>
      .custom k ("Field '" ++ k ++ "' is not allowed") Code.unexpectedField.text none), none)
  | _ => (c, none)

/-- The value of a field in the cleaned payload: in its type where it was sent, else its default. -/
def outputValue? (c : Context) (f : Field) : Option Value :=
  match Table.get? c.coerced f.name with
  | some v => some v
  | none => if c.hasField f.name then none else f.default

def isEmptyList : Value → Bool
  | .list [] => true
  | _ => false

/-- The cleaned payload: declared fields in order, then, where they are kept, undeclared keys. -/
def output (o : Outline) (active : List Group) (c : Context) : Table Value :=
  let declared := groupFields active |>.foldl
    (fun fs f => if fs.any (·.name = f.name) then fs else fs ++ [f]) o.fields
  let entries := declared.filterMap fun f => (outputValue? c f).map (f.name, ·)
  let extra := if o.unknown.keeps then (o.unknownKeys c.data).map fun k => (k, c.rawValue k .null)
    else []
  (entries ++ extra).filter fun e =>
    !(o.stripNulls && e.2.isNull) && !(o.stripEmptyLists && isEmptyList e.2)

def failed (o : Outline) (c : Context) : Event :=
  ⟨.debug, "validation_failed", [("schema", .text o.name), ("error_count", .int c.issues.length),
    ("fields", Value.texts (Text.sortedDistinct (c.issues.map (·.path))))]⟩

def conclude (o : Outline) (active : List Group) (c : Context) : Verdict :=
  ⟨.ok (Outcome.settle c.issues (o.output active c) (.map c.data) c.notices),
    c.events ++ (if c.hasIssues then [o.failed c] else [])⟩

/-- A run over a payload. `nestedFields` says for the fields with nested schemas whether they hold many
maps, and `nested` checks those. -/
def check (o : Outline) (nestedFields : Table Bool) (nested : Step) (v : Value) : Verdict :=
  match v with
  | .map sent =>
    match o.resolveAliases sent with
    | .error f => ⟨.error f, []⟩
    | .ok data =>
      let first := Step.andThen (Step.all (o.fields.map checkPresence))
        (Step.andThen
          (Step.all (o.fields.map fun f => o.checkField (Table.get? nestedFields f.name) f))
          (Validator.runAll o.rules))
      match first (Context.start data) with
      | (c, some f) => ⟨.error f, c.events⟩
      | (c, none) =>
        let active := o.activeGroups c
        let second := Step.andThen (Step.all ((groupFields active).map o.checkGroupField))
          (Step.andThen nested o.reportUnknown)
        match second c with
        | (c, some f) => ⟨.error f, c.events⟩
        | (c, none) => o.conclude active c
  | v => ⟨.ok (.failure (.ofIssue (.typeMismatch "$" "object" v.kind) v)), []⟩

end Outline

namespace Schema

/-- What a nested verdict adds to the run around it, and the cleaned map if there is one. -/
def merge (path : String) (verdict : Verdict) (c : Context) : Context × Except Fault Value :=
  let c := c.log verdict.events
  match verdict.result with
  | .error f => (c, .error f)
  | .ok outcome =>
    let c := c.addNotices (outcome.notices.map fun n => n.moved (joinPath path n.path))
    match outcome with
    | .success out _ => (c, .ok (.map out))
    | .failure r =>
      (c.addIssues (r.issues.map fun i => i.moved (joinPath path i.path)), .ok .null)

/-- The elements of a list one by one; what is not a map is reported and left out. -/
def mergeElements (name : String) (check : Value → Verdict) :
    Nat → List Value → Context → Context × Except Fault (List Value)
  | _, [], c => (c, .ok [])
  | i, v :: rest, c =>
    let path := name ++ "[" ++ toString i ++ "]"
    match v with
    | .map _ =>
      match merge path (check v) c with
      | (c, .error f) => (c, .error f)
      | (c, .ok w) =>
        let (c, ws) := mergeElements name check (i + 1) rest c
        (c, ws.map (w :: ·))
    | _ => mergeElements name check (i + 1) rest (c.addIssue (.typeMismatch path "object" v.kind))

def settle (name : String) : Context × Except Fault Value → Context × Option Fault
  | (c, .error f) => (c, some f)
  | (c, .ok v) => (c.setCoerced name v, none)

/-- The value of a field with a nested schema, replaced by what the schema makes of it. -/
def checkBinding (name : String) (many : Bool) (check : Value → Verdict) : Step := fun c =>
  match Table.get? c.coerced name with
  | none => (c, none)
  | some .null => (c, none)
  | some v =>
    if many then
      match v with
      | .list items =>
        let (c, ws) := mergeElements name check 0 items c
        settle name (c, ws.map .list)
      | _ => (c, none)
    else settle name (merge name (check v) c)

def nestedFields (bs : List Binding) : Table Bool := bs.map fun b => (b.name, b.many)

mutual

/-- Checks a payload: everything that is wrong with it, or its cleaned form. -/
def validate : Schema → Value → Verdict
  | .mk outline nested, v => outline.check (nestedFields nested) (checkBindings nested) v

/-- Checks the values of all fields with nested schemas. -/
def checkBindings : List Binding → Step
  | [] => Step.done
  | .mk name many schema :: rest =>
    Step.andThen (checkBinding name many fun v => validate schema v) (checkBindings rest)

end

/-- The cleaned form of a payload, or the payload itself if something is wrong with it. -/
def conform (s : Schema) (v : Value) : Except Fault Value :=
  (s.validate v).result.map fun o => o.elim .map fun _ => v

end Schema

end Intake
