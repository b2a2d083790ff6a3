import Intake.Pattern.Node
import Intake.Pattern.Problem
import Intake.Text.Blank
import Intake.Text.Digit
import Intake.Text.Word

namespace Intake.Pattern

/-- One character of a pattern, or a backslash with the character after it. -/
inductive Token where
  | plain (c : Char)
  | escaped (c : Char)
  deriving DecidableEq, Repr

def Token.chars : Token → List Char
  | .plain c => [c]
  | .escaped c => ['\\', c]

def Token.text (t : Token) : String := String.ofList t.chars

/-- What is left of a pattern and what it has declared so far. `widths` holds each group's width once
it is closed; `outside` is the number of groups before the lookbehind that is being read. -/
structure Progress where
  rest : List Char
  offset : Nat
  flags : Flags
  alphabets : List Flag
  template : Bool
  widths : List (Option (Nat × Nat))
  names : List (String × Nat)
  outside : Option Nat
  pending : List (Nat × Nat)

inductive Stop where
  | at (cause : Cause) (offset : Nat)
  | whole (problem : Problem)

abbrev Reads := StateT Progress (Except Stop)

def failAt {α : Type} (cause : Cause) (offset : Nat) : Reads α := throw (.at cause offset)

/-- Fails so many characters before the place that has been reached. -/
def fail {α : Type} (cause : Cause) (back : Nat) : Reads α := do
  failAt cause ((← get).offset - back)

def tell : Reads Nat := return (← get).offset

def nextToken? : List Char → Option Token
  | [] => none
  | '\\' :: c :: _ => some (.escaped c)
  | c :: _ => some (.plain c)

def peek : Reads (Option Token) := return nextToken? (← get).rest

/-- A backslash may not be the last character of a pattern. -/
def checkEnd : Reads Unit := do
  let p ← get
  if p.rest = ['\\'] then failAt .badEscapeAtEnd p.offset

/-- Takes the next token, if there is one. -/
def advance : Reads (Option Token) := do
  let p ← get
  match nextToken? p.rest with
  | none => return none
  | some t =>
    let n := t.chars.length
    set { p with rest := p.rest.drop n, offset := p.offset + n }
    checkEnd
    return some t

/-- Takes the next token if it is the given character. -/
def accept (c : Char) : Reads Bool := do
  if (← peek) = some (.plain c) then
    let _ ← advance
    return true
  else return false

/-- Takes at most so many characters of a kind. -/
def takeUpTo (isKind : Char → Bool) : Nat → Reads (List Char)
  | 0 => return []
  | n + 1 => do
    match ← peek with
    | some (.plain c) =>
      if isKind c then
        let _ ← advance
        return c :: (← takeUpTo isKind n)
      else return []
    | _ => return []

/-- Takes a name up to its terminator. -/
def takeName (terminator : Char) (what : String) : Nat → List Char → Reads String
  | 0, _ => fail (.missingName what) 0
  | fuel + 1, acc => do
    match ← advance with
    | none =>
      if acc.isEmpty then fail (.missingName what) 0
      else fail (.unterminatedName (String.ofList [terminator])) acc.length
    | some t =>
      if t = .plain terminator then
        if acc.isEmpty then fail (.missingName what) 1 else return String.ofList acc
      else takeName terminator what fuel (acc ++ t.chars)

def nameUntil (terminator : Char) (what : String) : Reads String := do
  takeName terminator what ((← get).rest.length + 1) []

def isIdentifier (s : String) : Bool :=
  match s.toList with
  | [] => false
  | c :: rest => Text.isWord c && !Text.isDigit c && rest.all Text.isWord

def checkName (name : String) : Reads Unit := do
  if !isIdentifier name then fail (.badGroupName name) (name.length + 1)

def isHex (c : Char) : Bool := c.isDigit || ('a' ≤ c && c ≤ 'f') || ('A' ≤ c && c ≤ 'F')

def isOctal (c : Char) : Bool := '0' ≤ c && c ≤ '7'

def hexValue (ds : List Char) : Nat :=
  ds.foldl (fun n c => 16 * n +
    (if c.isDigit then c.toNat - 48 else if c.toNat < 97 then c.toNat - 55 else c.toNat - 87)) 0

def octalValue (ds : List Char) : Nat := ds.foldl (fun n c => 8 * n + (c.toNat - 48)) 0

/-- The control character that a short escape stands for. -/
def shortEscape? (c : Char) : Option Nat :=
  if c = 'a' then some 7 else if c = 'b' then some 8 else if c = 'f' then some 12
  else if c = 'n' then some 10 else if c = 'r' then some 13 else if c = 't' then some 9
  else if c = 'v' then some 11 else if c = '\\' then some 92 else none

def category? (c : Char) : Option Item :=
  if c = 'd' then some (.category .digit false)
  else if c = 'D' then some (.category .digit true)
  else if c = 's' then some (.category .space false)
  else if c = 'S' then some (.category .space true)
  else if c = 'w' then some (.category .word false)
  else if c = 'W' then some (.category .word true)
  else none

def anchor? (c : Char) : Option Anchor :=
  if c = 'A' then some .textStart
  else if c = 'b' then some .boundary
  else if c = 'B' then some .nonBoundary
  else if c = 'Z' then some .textEnd
  else none

/-- A hexadecimal escape of exactly so many digits. -/
def hexEscape (letter : Char) (count : Nat) : Reads Nat := do
  let ds ← takeUpTo isHex count
  let all := '\\' :: letter :: ds
  if ds.length ≠ count then fail (.incompleteEscape (String.ofList all)) all.length
  let n := hexValue ds
  if 0x110000 ≤ n then fail (.badEscape (String.ofList all)) all.length
  return n

/-- Escapes that mean a character wherever they stand. -/
def charEscape? (c : Char) : Option (Reads Nat) :=
  if c = 'x' then some (hexEscape 'x' 2)
  else if c = 'u' then some (hexEscape 'u' 4)
  else if c = 'U' then some (hexEscape 'U' 8)
  else if c = 'N' then some do
    if !(← accept '\x7b') then fail .missingBrace 0
    let name ← nameUntil '\x7d' "character name"
    fail (.unknownCharacterName name) (name.length + 4)
  else none

/-- An escaped character that has no meaning of its own stands for itself unless it is a letter. -/
def selfEscape (c : Char) : Reads Nat := do
  if c.isAlpha then fail (.badEscape (String.ofList ['\\', c])) 2
  return c.toNat

/-- An escape inside a character set. -/
def setEscape (c : Char) : Reads Item := do
  match shortEscape? c with
  | some n => return .char n
  | none =>
    match category? c with
    | some item => return item
    | none =>
      match charEscape? c with
      | some read => return .char (← read)
      | none =>
        if isOctal c then
          let ds := c :: (← takeUpTo isOctal 2)
          let n := octalValue ds
          if 0o377 < n then
            fail (.octalTooLarge (String.ofList ('\\' :: ds))) (ds.length + 1)
          return .char n
        else if c.isDigit then fail (.badEscape (String.ofList ['\\', c])) 2
        else return .char (← selfEscape c)

def groupCount : Reads Nat := return (← get).widths.length

def isClosed (index : Nat) : Reads Bool := do
  return (((← get).widths[index]?).getD none).isSome

/-- A reference inside a lookbehind has to be to a group closed before it. -/
def checkLookbehind (index : Nat) : Reads Unit := do
  match (← get).outside with
  | none => return ()
  | some before =>
    if !(← isClosed index) then fail .openGroup 0
    if before ≤ index then fail .sameLookbehind 0

/-- A reference to a group by number. -/
def groupReference (ds : List Char) : Reads Node := do
  let index := Text.digitsValue ds
  let back := ds.length + 1
  if index < (← groupCount) then
    if !(← isClosed index) then fail .openGroup back
    checkLookbehind index
    return .backref index
  else fail (.unknownGroup index) (back - 1)

def literal (n : Nat) : Node := .set false [.char n]

/-- An escape that starts with a nonzero digit: an octal character if three octal digits stand
there, a group reference otherwise. -/
def numericEscape (c : Char) : Reads Node := do
  let second ← takeUpTo Char.isDigit 1
  match second with
  | [d] =>
    if isOctal c && isOctal d then
      match ← takeUpTo isOctal 1 with
      | [e] =>
        let n := octalValue [c, d, e]
        if 0o377 < n then fail (.octalTooLarge (String.ofList ['\\', c, d, e])) 4
        return literal n
      | _ => groupReference [c, d]
    else groupReference [c, d]
  | _ => groupReference [c]

/-- An escape outside a character set. -/
def plainEscape (c : Char) : Reads Node := do
  match anchor? c, category? c with
  | some a, _ => return .anchor a
  | none, some item => return .set false [item]
  | none, none =>
    match shortEscape? c with
    | some n => return literal n
    | none =>
      match charEscape? c with
      | some read => return literal (← read)
      | none =>
        if c = '0' then
          let ds ← takeUpTo isOctal 2
          return literal (octalValue ('0' :: ds))
        else if c.isDigit then numericEscape c
        else return literal (← selfEscape c)

/-- The elements of a character set up to its closing bracket. -/
def setItems (start : Nat) : Nat → List Item → Reads (List Item)
  | 0, _ => failAt .unterminatedSet start
  | fuel + 1, acc => do
    match ← advance with
    | none => failAt .unterminatedSet start
    | some this =>
      if this = .plain ']' && !acc.isEmpty then return acc
      else
        let first ← match this with
          | .escaped c => setEscape c
          | .plain c => pure (.char c.toNat)
        if ← accept '-' then
          match ← advance with
          | none => failAt .unterminatedSet start
          | some that =>
            if that = .plain ']' then return acc ++ [first, .char 45]
            else
              let second ← match that with
                | .escaped c => setEscape c
                | .plain c => pure (.char c.toNat)
              let back := this.chars.length + 1 + that.chars.length
              match first, second with
              | .char low, .char high =>
                if high < low then fail (.badRange this.text that.text) back
                setItems start fuel (acc ++ [.range low high])
              | _, _ => fail (.badRange this.text that.text) back
        else setItems start fuel (acc ++ [first])

/-- Counts at or past this one are refused. -/
def maxCount : Nat := 4294967295

/-- The bounds of a repetition in braces; none when the brace stands for itself. -/
def braces (here : Nat) : Reads (Option (Nat × Option Nat)) := do
  if (← peek) = some (.plain '\x7d') then return none
  let saved ← get
  let low ← takeUpTo Char.isDigit saved.rest.length
  let comma ← accept ','
  let high ← if comma then takeUpTo Char.isDigit saved.rest.length else pure low
  if !(← accept '\x7d') then
    set saved
    return none
  let least := Text.digitsValue low
  if maxCount ≤ least then throw (.whole .tooLarge)
  if high.isEmpty then return some (least, none)
  let most := Text.digitsValue high
  if maxCount ≤ most then throw (.whole .tooLarge)
  if most < least then failAt .crossedRepeat here
  return some (least, some most)

/-- How eager a repetition is: at most one mark after it says so. -/
def greed : Reads Greed := do
  if ← accept '?' then return .lazy
  if ← accept '+' then return .possessive
  return .greedy

/-- Repeats the last of the nodes read so far, which are in reverse. -/
def repeatLast (start : Nat) (bounds : Nat × Option Nat) (nodes : List Node) : Reads (List Node) := do
  match nodes with
  | [] => failAt .nothingToRepeat start
  | n :: before =>
    if n.isAnchor then failAt .nothingToRepeat start
    if n.isLoop then failAt .multipleRepeat start
    return .loop bounds.1 bounds.2 (← greed) n :: before

/-- What the letters after `(?` turn out to be. -/
inductive FlagChange where
  | everywhere
  | within (added removed : List Flag)

/-- The letters turned off, after a dash. -/
def removedFlags : Nat → Flag → List Flag → Reads (List Flag)
  | 0, _, _ => fail .missingColon 0
  | fuel + 1, flag, acc => do
    if flag.isKind then fail .kindTurnedOff 0
    let acc := acc ++ [flag]
    match ← advance with
    | none => fail .missingColon 0
    | some (.plain ':') => return acc
    | some t =>
      match t with
      | .plain c =>
        match Flag.ofLetter? c with
        | some f => removedFlags fuel f acc
        | none => fail (if Text.isWord c && !Text.isDigit c && c != '_' then .unknownFlag
            else .missingColon) 1
      | .escaped _ => fail .missingColon 2

/-- The letters turned on, and the character that ends them. -/
def addedFlags : Nat → Flag → List Flag → Reads (List Flag × Char)
  | 0, _, _ => fail .missingFlagEnd 0
  | fuel + 1, flag, acc => do
    if flag = .locale then fail .localeFlag 0
    let acc := acc ++ [flag]
    if flag.isKind && acc.any (fun f => f.isKind && f != flag) then fail .mixedKinds 0
    match ← advance with
    | none => fail .missingFlagEnd 0
    | some (.escaped _) => fail .missingFlagEnd 2
    | some (.plain c) =>
      if c = ')' || c = '-' || c = ':' then return (acc, c)
      else match Flag.ofLetter? c with
        | some f => addedFlags fuel f acc
        | none => fail (if Text.isWord c && !Text.isDigit c && c != '_' then .unknownFlag
            else .missingFlagEnd) 1

/-- The flags that start with a given character, which is a letter or a dash. -/
def flagChange (c : Char) : Reads FlagChange := do
  let fuel := (← get).rest.length + 1
  let (added, stop) ← match Flag.ofLetter? c with
    | some f => addedFlags fuel f []
    | none => pure ([], '-')
  if stop = ')' then
    modify fun p => { p with
      flags := p.flags.change added []
      alphabets := p.alphabets ++ added.filter Flag.isKind
      template := p.template || added.contains .template }
    return .everywhere
  if added.contains .template then fail .globalTurnedOn 1
  let removed ← if stop = '-' then
      match ← advance with
      | none => fail .missingFlag 0
      | some (.escaped _) => fail .missingFlag 2
      | some (.plain d) =>
        match Flag.ofLetter? d with
        | some f => removedFlags fuel f []
        | none => fail (if Text.isWord d && !Text.isDigit d && d != '_' then .unknownFlag
            else .missingFlag) 1
    else pure []
  if removed.contains .template then fail .globalTurnedOff 1
  if added.any removed.contains then fail .onAndOff 1
  return .within added removed

/-- Opens a group and gives its number. -/
def openGroup (name : Option String) : Reads Nat := do
  let index ← groupCount
  modify fun p => { p with widths := p.widths ++ [none] }
  match name with
  | none => return index
  | some n =>
    match (← get).names.lookup n with
    | some previous => fail (.repeatedGroupName n index previous) (n.length + 1)
    | none =>
      modify fun p => { p with names := (n, index) :: p.names }
      return index

def closeGroup (index : Nat) (body : Node) : Reads Unit :=
  modify fun p => { p with widths := p.widths.set index (some (body.width p.widths)) }

/-- Group numbers at or past this one cannot occur. -/
def maxGroups : Nat := 1073741824

/-- The group that a condition names, by name or by number. -/
def conditionGroup (name : String) : Reads Nat := do
  let back := name.length + 1
  if isIdentifier name then
    match (← get).names.lookup name with
    | some index => return index
    | none => fail (.unknownGroupName name) back
  else
    let s := Text.trim name.toList
    let ds := if s.head? = some '+' then s.drop 1 else s
    if ds.isEmpty || !ds.all Text.isDigit then fail (.badGroupName name) back
    let index := Text.digitsValue ds
    if index = 0 then fail .badGroupNumber back
    if maxGroups ≤ index then fail (.unknownGroup index) back
    let place := (← tell) - back
    modify fun p => if (p.pending.lookup index).isSome then p
      else { p with pending := p.pending ++ [(index, place)] }
    return index

/-- Passes over a comment. -/
def skipComment (start : Nat) : Nat → Reads Unit
  | 0 => failAt .unterminatedComment start
  | fuel + 1 => do
    match ← advance with
    | none => failAt .unterminatedComment start
    | some t => if t = .plain ')' then return () else skipComment start fuel

/-- Passes over the rest of a line. -/
def skipLine : Nat → Reads Unit
  | 0 => return ()
  | fuel + 1 => do
    match ← advance with
    | none => return ()
    | some t => if t = .plain '\n' then return () else skipLine fuel

def closing (start : Nat) : Reads Unit := do
  if !(← accept ')') then failAt .unterminatedGroup start

def isVerboseSpace (c : Char) : Bool :=
  c = ' ' || c = '\t' || c = '\n' || c = '\r' || c = '\x0b' || c = '\x0c'

/-- The kinds of group that go on after `(?`. -/
inductive Opening where
  | capture (name : Option String)
  | plain (added removed : List Flag)
  | atomic
  | look (behind negated : Bool)
  | condition
  | done (node : Option Node)

/-- What a group that starts with `(?` is. -/
def opening (start : Nat) (canSetFlags : Bool) : Reads Opening := do
  match ← advance with
  | none => fail .unexpectedEnd 0
  | some (.escaped c) => fail (.unknownExtension (String.ofList ['?', '\\', c])) 3
  | some (.plain c) =>
    if c = 'P' then
      if ← accept '<' then
        let name ← nameUntil '>' "group name"
        checkName name
        return .capture (some name)
      else if ← accept '=' then
        let name ← nameUntil ')' "group name"
        checkName name
        match (← get).names.lookup name with
        | none => fail (.unknownGroupName name) (name.length + 1)
        | some index =>
          if !(← isClosed index) then fail .openGroup (name.length + 1)
          checkLookbehind index
          return .done (some (.backref index))
      else
        match ← advance with
        | none => fail .unexpectedEnd 0
        | some t => fail (.unknownExtension ("?P" ++ t.text)) (t.chars.length + 2)
    else if c = ':' then return .plain [] []
    else if c = '#' then
      skipComment start ((← get).rest.length + 1)
      return .done none
    else if c = '=' then return .look false false
    else if c = '!' then return .look false true
    else if c = '<' then
      match ← advance with
      | none => fail .unexpectedEnd 0
      | some t =>
        if t = .plain '=' then return .look true false
        else if t = .plain '!' then return .look true true
        else fail (.unknownExtension ("?<" ++ t.text)) (t.chars.length + 2)
    else if c = '(' then return .condition
    else if c = '>' then return .atomic
    else if (Flag.ofLetter? c).isSome || c = '-' then
      match ← flagChange c with
      | .within added removed => return .plain added removed
      | .everywhere =>
        if !canSetFlags then failAt .lateFlags start
        return .done none
    else fail (.unknownExtension (String.ofList ['?', c])) 2

mutual

/-- Alternatives between bars. -/
def alternatives : Nat → Bool → Bool → Reads Node
  | 0, _, _ => fail .unexpectedEnd 0
  | fuel + 1, verbose, nested => do
    let first ← sequence fuel verbose (!nested) []
    if ← accept '|' then
      let verbose ← if nested then pure verbose else pure (← get).flags.verbose
      return .alt (Node.ofList first) (← otherAlternatives fuel verbose nested)
    else return Node.ofList first

def otherAlternatives : Nat → Bool → Bool → Reads Node
  | 0, _, _ => fail .unexpectedEnd 0
  | fuel + 1, verbose, nested => do
    let node ← sequence fuel verbose false []
    if ← accept '|' then
      let verbose ← if nested then pure verbose else pure (← get).flags.verbose
      return .alt (Node.ofList node) (← otherAlternatives fuel verbose nested)
    else return Node.ofList node

/-- A row of items; `nodes` are those read so far, in reverse. Flags for the whole pattern may only
be set at its very start. -/
def sequence : Nat → Bool → Bool → List Node → Reads (List Node)
  | 0, _, _, _ => fail .unexpectedEnd 0
  | fuel + 1, verbose, first, nodes => do
    match ← peek with
    | none => return nodes.reverse
    | some (.plain '|') => return nodes.reverse
    | some (.plain ')') => return nodes.reverse
    | some this =>
      let start ← tell
      let _ ← advance
      match this with
      | .escaped c => sequence fuel verbose first ((← plainEscape c) :: nodes)
      | .plain c =>
        if verbose && isVerboseSpace c then sequence fuel verbose first nodes
        else if verbose && c = '#' then
          skipLine ((← get).rest.length + 1)
          sequence fuel verbose first nodes
        else if c = '.' then sequence fuel verbose first (.any :: nodes)
        else if c = '^' then sequence fuel verbose first (.anchor .lineStart :: nodes)
        else if c = '$' then sequence fuel verbose first (.anchor .lineEnd :: nodes)
        else if c = '[' then
          let negated ← accept '^'
          let items ← setItems start ((← get).rest.length + 1) []
          sequence fuel verbose first (.set negated items :: nodes)
        else if c = '*' then
          sequence fuel verbose first (← repeatLast start (0, none) nodes)
        else if c = '+' then
          sequence fuel verbose first (← repeatLast start (1, none) nodes)
        else if c = '?' then
          sequence fuel verbose first (← repeatLast start (0, some 1) nodes)
        else if c = '\x7b' then
          match ← braces (start + 1) with
          | none => sequence fuel verbose first (literal c.toNat :: nodes)
          | some bounds => sequence fuel verbose first (← repeatLast start bounds nodes)
        else if c = '(' then
          let kind ← if ← accept '?' then opening start (first && nodes.isEmpty)
            else pure (.capture none)
          match kind with
          | .done none =>
            let flags := (← get).flags
            sequence fuel (verbose || (first && nodes.isEmpty && flags.verbose)) first nodes
          | .done (some node) => sequence fuel verbose first (node :: nodes)
          | .capture name =>
            let index ← openGroup name
            let body ← alternatives fuel verbose true
            closing start
            closeGroup index body
            sequence fuel verbose first (.group index body :: nodes)
          | .plain added removed =>
            let inner := (verbose || added.contains .verbose) && !removed.contains .verbose
            let body ← alternatives fuel inner true
            closing start
            sequence fuel verbose first (.scoped added removed body :: nodes)
          | .atomic =>
            let body ← alternatives fuel verbose true
            closing start
            sequence fuel verbose first (.atomic body :: nodes)
          | .look behind negated =>
            let saved := (← get).outside
            if behind && saved.isNone then
              modify fun p => { p with outside := some p.widths.length }
            let body ← alternatives fuel verbose true
            if behind then modify fun p => { p with outside := saved }
            closing start
            let (low, high) := body.width (← get).widths
            let width := if behind && low ≠ high then Node.maxWidth else low
            sequence fuel verbose first (.look behind negated width body :: nodes)
          | .condition =>
            let name ← nameUntil ')' "group name"
            let index ← conditionGroup name
            checkLookbehind index
            let yes ← sequence fuel verbose false []
            let no ← if ← accept '|' then
                let no ← sequence fuel verbose false []
                if (← peek) = some (.plain '|') then fail .tooManyBranches 0
                pure no
              else pure []
            closing start
            sequence fuel verbose first
              (.choice index (Node.ofList yes) (Node.ofList no) :: nodes)
        else sequence fuel verbose first (literal c.toNat :: nodes)

end

namespace Node

/-- Whether a node looks behind over a part whose width is not fixed. -/
def hasUnboundedLookbehind : Node → Bool
  | .seq a b => a.hasUnboundedLookbehind || b.hasUnboundedLookbehind
  | .alt a b => a.hasUnboundedLookbehind || b.hasUnboundedLookbehind
  | .loop _ _ _ body => body.hasUnboundedLookbehind
  | .group _ body => body.hasUnboundedLookbehind
  | .scoped _ _ body => body.hasUnboundedLookbehind
  | .atomic body => body.hasUnboundedLookbehind
  | .look behind _ width body => behind && width = maxWidth || body.hasUnboundedLookbehind
  | .choice _ yes no => yes.hasUnboundedLookbehind || no.hasUnboundedLookbehind
  | _ => false

def hasLoop : Node → Bool
  | .seq a b => a.hasLoop || b.hasLoop
  | .alt a b => a.hasLoop || b.hasLoop
  | .loop .. => true
  | .group _ body => body.hasLoop
  | .scoped _ _ body => body.hasLoop
  | .atomic body => body.hasLoop
  | .look _ _ _ body => body.hasLoop
  | .choice _ yes no => yes.hasLoop || no.hasLoop
  | _ => false

end Node

/-- A whole pattern. -/
def wholePattern : Reads Node := do
  checkEnd
  let node ← alternatives (3 * (← get).rest.length + 3) false false
  let p ← get
  if p.alphabets.contains .ascii && p.alphabets.contains .unicode then
    throw (.whole .mixedAlphabets)
  if !p.rest.isEmpty then fail .unbalanced 0
  match p.pending.find? fun (index, _) => p.widths.length ≤ index with
  | some (index, place) => failAt (.unknownGroup index) place
  | none =>
    if p.template && node.hasLoop then
      throw (.whole (.malformed Cause.templateRepeat.text))
    if node.hasUnboundedLookbehind then
      throw (.whole (.malformed Cause.unboundedLookbehind.text))
    return node

/-- A pattern ready to be searched for. -/
structure Compiled where
  node : Node
  flags : Flags
  deriving Inhabited

/-- Reads a pattern, or says what is wrong with it. -/
def compile (pattern : String) : Except Problem Compiled :=
  let s := pattern.toList
  match wholePattern.run ⟨s, 0, {}, [], false, [none], [], none, []⟩ with
  | .ok (node, p) => .ok ⟨node, p.flags⟩
  | .error (.at cause offset) => .error (Problem.at s cause offset)
  | .error (.whole problem) => .error problem

end Intake.Pattern
