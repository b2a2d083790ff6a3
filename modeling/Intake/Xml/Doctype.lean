import Intake.Text.Split
import Intake.Xml.Problem
import Intake.Xml.Token

namespace Intake.Xml

/-- What an entity stands for: a text, or something outside the document. -/
inductive Entity where
  | internal (text : List Char)
  | external
  | unparsed
  deriving DecidableEq, Repr

/-- A declared attribute of an element: whether its value is kept as it is written, and its default. -/
structure AttributeRule where
  element : List Char
  name : List Char
  isVerbatim : Bool
  default : Option (List Char)

/-- What the declarations of a document say. Where further declarations stand outside the document,
`mayBeIncomplete` holds, and after a reference to them declarations no longer count. -/
structure Doctype where
  entities : List (List Char × Entity)
  rules : List AttributeRule
  mayBeIncomplete : Bool
  isStandalone : Bool
  counts : Bool

namespace Doctype

def empty (isStandalone : Bool) : Doctype := ⟨[], [], false, isStandalone, true⟩

/-- Whether every entity has to be declared in the document. -/
def isStrict (d : Doctype) : Bool := !d.mayBeIncomplete || d.isStandalone

def entity? (d : Doctype) (name : List Char) : Option Entity := d.entities.lookup name

/-- The first declaration of a name counts. -/
def addEntity (d : Doctype) (name : List Char) (e : Entity) : Doctype :=
  if (d.entity? name).isSome then d else { d with entities := d.entities ++ [(name, e)] }

def rulesFor (d : Doctype) (element : List Char) : List AttributeRule :=
  d.rules.filter (·.element = element)

/-- The first default of an attribute counts. -/
def addRule (d : Doctype) (r : AttributeRule) : Doctype :=
  if r.default.isSome && d.rules.any (fun s => s.element = r.element && s.name = r.name) then d
  else { d with rules := d.rules ++ [r] }

/-- Expansions of entities may make a document larger than this only in proportion to its size. -/
def expansionFloor : Nat := 8 * 1024 * 1024

def expansionFactor : Nat := 100

/-- Whether entities may add so much at a place in a document. -/
def isTolerable (offset expanded : Nat) : Bool :=
  offset + expanded < expansionFloor || offset + expanded ≤ expansionFactor * offset

def octetCount (s : List Char) : Nat := s.foldl (fun n c => n + c.utf8Size) 0

theorem length_drop_lt_cons {α : Type} (n : Nat) (a : α) (s : List α) :
    (s.drop n).length < (a :: s).length := by
  simp only [List.length_drop, List.length_cons]
  omega

/-- The value of an attribute with its references resolved and white space made blanks. `home` is the
place of what holds the value; `place` is that of the rest of the value, unless it stands in an entity.
The number that goes along counts what entities add. -/
def expand (d : Doctype) (home : Nat) : (depth : Nat) → (place : Option Nat) →
    (opened : List (List Char)) → Nat → List Char → Except Failure (List Char × Nat)
  | _, _, _, added, [] => .ok ([], added)
  | depth, place, opened, added, c :: rest => do
    let here := place.getD home
    let next := place.map (· + 1)
    if c = '<' || !isText c then throw (.at .invalidToken here)
    if c = '&' then
      match scanReference ⟨rest, 0⟩ with
      | .error (.invalid n) => throw (.at .invalidToken ((next.map (· + n)).getD home))
      | .error _ => throw (.at .invalidToken here)
      | .ok (r, after) =>
        let n := 1 + after.offset
        match r with
        | .character none => throw (.at .badCharacterNumber here)
        | .character (some v) =>
          let (s, added) ← expand d home depth (place.map (· + n)) opened added (rest.drop after.offset)
          return (v :: s, added)
        | .entity name =>
          match predefined? name, d.entity? name with
          | some v, _ =>
            let (s, added) ← expand d home depth (place.map (· + n)) opened added (rest.drop after.offset)
            return (v :: s, added)
          | none, none =>
            if d.isStrict then throw (.at .undefinedEntity home)
            expand d home depth (place.map (· + n)) opened added (rest.drop after.offset)
          | none, some .unparsed => throw (.at .binaryEntity here)
          | none, some .external => throw (.at .externalInAttribute here)
          | none, some (.internal text) =>
            if opened.contains name then throw (.at .recursiveEntity home)
            let added := added + octetCount text
            if !isTolerable home added then throw (.at .tooMuchExpansion home)
            match depth with
            | 0 => throw (.at .recursiveEntity home)
            | depth + 1 =>
              let (inner, added) ← expand d home depth none (name :: opened) added text
              let (s, added) ← expand d home (depth + 1) (place.map (· + n)) opened added
                (rest.drop after.offset)
              return (inner ++ s, added)
    else if c = '\r' && rest.head? = some '\n' then
      expand d home depth next opened added rest
    else
      let (s, added) ← expand d home depth next opened added rest
      return ((if isSpace c then ' ' else c) :: s, added)
termination_by depth _ _ _ s => (depth, s.length)
decreasing_by
  · exact Prod.Lex.right _ (length_drop_lt_cons ..)
  · exact Prod.Lex.right _ (length_drop_lt_cons ..)
  · exact Prod.Lex.right _ (length_drop_lt_cons ..)
  · exact Prod.Lex.left _ _ (Nat.lt_succ_self _)
  · exact Prod.Lex.right _ (length_drop_lt_cons ..)
  · exact Prod.Lex.right _ (Nat.lt_succ_self _)
  · exact Prod.Lex.right _ (Nat.lt_succ_self _)

/-- Blanks at the ends left out, and every stretch of them made one. -/
def collapseBlanks (s : List Char) : List Char :=
  ((Text.splitOn ' ' s).filter (!·.isEmpty)).intersperse [' '] |>.flatten

/-- The value of an attribute. -/
def attributeValue (d : Doctype) (home : Nat) (place : Option Nat) (isVerbatim : Bool)
    (added : Nat) (s : List Char) : Except Failure (List Char × Nat) := do
  let (v, added) ← d.expand home (d.entities.length + 1) place [] added s
  return (if isVerbatim then v else collapseBlanks v, added)

end Doctype

end Intake.Xml
