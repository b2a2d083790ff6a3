import Intake.Text.Blank
import Intake.Text.Case

namespace Intake

namespace TypeName

/-- The canonical name of each spelling, in lower case, of a type that takes no argument. -/
def aliases : List (String × String) := [
  ("str", "str"), ("string", "str"), ("text", "str"),
  ("int", "int"), ("integer", "int"), ("int64", "int"), ("long", "int"),
  ("int32", "int32"),
  ("float", "float"), ("float64", "float"), ("double", "float"), ("number", "float"),
  ("bool", "bool"), ("boolean", "bool"),
  ("datetime", "datetime"), ("time", "datetime"), ("timestamp", "datetime"),
  ("date", "date"),
  ("uuid", "uuid"),
  ("list", "list[any]"), ("array", "list[any]"),
  ("dict", "dict[any]"), ("hash", "dict[any]"), ("object", "dict[any]"),
  ("any", "any")]

def alias? (name : List Char) : Option String :=
  aliases.lookup (String.ofList (Text.lower name))

/-- Whether a character is a letter in either case, in any form that folds to it. -/
def isLetter (letter c : Char) : Bool :=
  (Text.lowerChar c).head? = some letter
    || letter = 'i' && c.toNat = 0x131
    || letter = 's' && c.toNat = 0x17f

/-- A text without a word at its start, the word in any case. -/
def dropWord? : List Char → List Char → Option (List Char)
  | [], s => some s
  | _ :: _, [] => none
  | w :: word, c :: s => if isLetter w c then dropWord? word s else none

def containerWords : List String := ["list", "array", "dict", "hash"]

/-- The argument between an opening bracket and the last character, which closes it. -/
def argument? : List Char → Option (List Char)
  | [] => none
  | c :: rest =>
    if (c = '[' || c = '(') && (rest.getLast? = some ']' || rest.getLast? = some ')')
      && !rest.dropLast.contains '\n' then some rest.dropLast
    else none

/-- The word and the argument of a container spelled with brackets of either kind. -/
def container? (name : List Char) : Option (List Char × List Char) :=
  containerWords.findSome? fun word =>
    (dropWord? word.toList name).bind fun rest =>
      (argument? (Text.trimStart rest)).map fun inner => (name.take word.length, inner)

/-- What stands after the last comma. -/
def lastPart (s : List Char) : List Char := (s.reverse.takeWhile (· ≠ ',')).reverse

theorem length_trim_le (s : List Char) : (Text.trim s).length ≤ s.length := by
  have dropLe : ∀ l : List Char, (l.dropWhile Text.isBlank).length ≤ l.length := fun l =>
    (List.dropWhile_sublist _).length_le
  unfold Text.trim Text.trimEnd Text.trimStart
  simpa using Nat.le_trans (dropLe _) (by simpa using dropLe s)

theorem length_lastPart_le (s : List Char) : (lastPart s).length ≤ s.length := by
  simpa [lastPart] using (List.takeWhile_sublist (l := s.reverse) (· ≠ ',')).length_le

theorem length_of_dropWord? {word s rest : List Char} (h : dropWord? word s = some rest) :
    rest.length ≤ s.length := by
  induction word generalizing s with
  | nil => simp only [dropWord?, Option.some.injEq] at h; simp [h]
  | cons w word ih =>
    cases s with
    | nil => simp [dropWord?] at h
    | cons c s =>
      simp only [dropWord?] at h
      split at h
      · have := ih h
        simp only [List.length_cons]
        omega
      · simp at h

theorem length_of_argument? {s inner : List Char} (h : argument? s = some inner) :
    inner.length < s.length := by
  cases s with
  | nil => simp [argument?] at h
  | cons c rest =>
    simp only [argument?] at h
    split at h
    · simp only [Option.some.injEq] at h
      subst h
      simp only [List.length_dropLast, List.length_cons]
      omega
    · simp at h

theorem length_of_container? {name word inner : List Char}
    (h : container? name = some (word, inner)) : inner.length < name.length := by
  obtain ⟨w, -, hw⟩ := List.exists_of_findSome?_eq_some h
  obtain ⟨rest, hrest, hmap⟩ := Option.bind_eq_some_iff.1 hw
  obtain ⟨i, hi, heq⟩ := Option.map_eq_some_iff.1 hmap
  have hlen := length_of_argument? hi
  have hdrop := length_of_dropWord? hrest
  have htrim : (Text.trimStart rest).length ≤ rest.length :=
    (List.dropWhile_sublist _).length_le
  have : i = inner := (Prod.mk.inj heq).2
  subst this
  omega

def isListWord (word : List Char) : Bool :=
  Text.lower word = "list".toList || Text.lower word = "array".toList

/-- The canonical form of a type's spelling. A map's argument is its value type, which stands after
the last comma, since its keys are texts. -/
def canonicalChars (s : List Char) : List Char :=
  match alias? (Text.trim s) with
  | some a => a.toList
  | none =>
    match h : container? (Text.trim s) with
    | none => Text.trim s
    | some (word, inner) =>
      let isEmpty := (Text.trim inner).isEmpty
      if isListWord word then
        "list[".toList ++ (if isEmpty then "any".toList else canonicalChars inner) ++ [']']
      else
        "dict[".toList ++ (if isEmpty then "any".toList else canonicalChars (lastPart inner)) ++ [']']
termination_by s.length
decreasing_by
  · have := length_of_container? h
    have := length_trim_le s
    omega
  · have := length_of_container? h
    have := length_trim_le s
    have := length_lastPart_le inner
    omega

/-- The element type that a container's name ends with. -/
def elementChars? (name : List Char) : Option (List Char) :=
  if ("list[".toList.isPrefixOf name || "dict[".toList.isPrefixOf name)
    && name.getLast? = some ']' then some ((name.drop 5).dropLast)
  else none

def canonical (s : String) : String := String.ofList (canonicalChars s.toList)

def element? (name : String) : Option String :=
  (elementChars? name.toList).map String.ofList

end TypeName

/-- A field's type as it is declared: by a spelling, or by a form built up from known types. -/
inductive TypeForm where
  | spelled (name : String)
  | known (label canonical : String)
  | listOf (label : String) (arguments : List TypeForm)
  | dictOf (label : String) (arguments : List TypeForm)
  | other (label : String)
  | unsupported (label shown : String)
  deriving Inhabited

namespace TypeForm

mutual

/-- The canonical name of a declared type, or the text of the part that no field can have. -/
def canonical : TypeForm → Except String String
  | .spelled name => .ok (TypeName.canonical name)
  | .known _ name => .ok name
  | .listOf _ arguments => (firstCanonical arguments).map fun e => "list[" ++ e ++ "]"
  | .dictOf _ arguments => (lastCanonical arguments).map fun e => "dict[" ++ e ++ "]"
  | .other label => .ok label
  | .unsupported _ shown => .error shown

def firstCanonical : List TypeForm → Except String String
  | [] => .ok "any"
  | t :: _ => canonical t

def lastCanonical : List TypeForm → Except String String
  | [] => .ok "any"
  | [t] => canonical t
  | _ :: rest => lastCanonical rest

end

/-- The short name of a declared type. -/
def label : TypeForm → String
  | .spelled name => name
  | .known label _ => label
  | .listOf label _ => label
  | .dictOf label _ => label
  | .other label => label
  | .unsupported label _ => label

end TypeForm

end Intake
