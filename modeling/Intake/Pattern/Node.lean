namespace Intake.Pattern

/-- How letters and lines are seen. -/
structure Flags where
  ignoreCase : Bool := false
  multiline : Bool := false
  dotAll : Bool := false
  verbose : Bool := false
  ascii : Bool := false
  deriving DecidableEq, Repr, Inhabited

/-- The flag that an inline letter names. -/
inductive Flag where
  | ignoreCase
  | multiline
  | dotAll
  | verbose
  | ascii
  | unicode
  | template
  | locale
  deriving DecidableEq, Repr, Inhabited

def Flag.ofLetter? (c : Char) : Option Flag :=
  if c = 'i' then some .ignoreCase
  else if c = 'm' then some .multiline
  else if c = 's' then some .dotAll
  else if c = 'x' then some .verbose
  else if c = 'a' then some .ascii
  else if c = 'u' then some .unicode
  else if c = 't' then some .template
  else if c = 'L' then some .locale
  else none

def Flag.isKind (f : Flag) : Bool := f = .ascii || f = .unicode || f = .locale

def Flags.set (on : Bool) (fs : Flags) : Flag → Flags
  | .ignoreCase => { fs with ignoreCase := on }
  | .multiline => { fs with multiline := on }
  | .dotAll => { fs with dotAll := on }
  | .verbose => { fs with verbose := on }
  | .ascii => { fs with ascii := on }
  | .unicode => { fs with ascii := !on }
  | .template => fs
  | .locale => fs

def Flags.change (fs : Flags) (added removed : List Flag) : Flags :=
  removed.foldl (Flags.set false) (added.foldl (Flags.set true) fs)

/-- A class of characters that has a name of its own. -/
inductive Category where
  | digit
  | space
  | word
  deriving DecidableEq, Repr, Inhabited

/-- One element of a character set. -/
inductive Item where
  | char (c : Nat)
  | range (low high : Nat)
  | category (kind : Category) (negated : Bool)
  deriving DecidableEq, Repr, Inhabited

/-- A place in a text that takes up no character. -/
inductive Anchor where
  | lineStart
  | lineEnd
  | textStart
  | textEnd
  | boundary
  | nonBoundary
  deriving DecidableEq, Repr, Inhabited

inductive Greed where
  | greedy
  | lazy
  | possessive
  deriving DecidableEq, Repr, Inhabited

inductive Node where
  | empty
  | any
  | set (negated : Bool) (items : List Item)
  | anchor (a : Anchor)
  | seq (first second : Node)
  | alt (first second : Node)
  | loop (min : Nat) (max : Option Nat) (greed : Greed) (body : Node)
  | group (index : Nat) (body : Node)
  | scoped (added removed : List Flag) (body : Node)
  | atomic (body : Node)
  | look (behind negated : Bool) (width : Nat) (body : Node)
  | backref (index : Nat)
  | choice (index : Nat) (yes no : Node)
  deriving Inhabited

namespace Node

def ofList : List Node → Node
  | [] => .empty
  | [n] => n
  | n :: rest => .seq n (ofList rest)

def isLoop : Node → Bool
  | .loop .. => true
  | _ => false

def isAnchor : Node → Bool
  | .anchor _ => true
  | _ => false

/-- Widths at or past this one count as unbounded. -/
def maxWidth : Nat := 18446744073709551616

/-- The least and the greatest number of characters that a node takes, given those of the groups. -/
def width (groups : List (Option (Nat × Nat))) : Node → Nat × Nat
  | .empty => (0, 0)
  | .any => (1, 1)
  | .set _ _ => (1, 1)
  | .anchor _ => (0, 0)
  | .look _ _ _ _ => (0, 0)
  | .seq a b =>
    let (la, ha) := width groups a
    let (lb, hb) := width groups b
    (min (la + lb) maxWidth, min (ha + hb) maxWidth)
  | .alt a b =>
    let (la, ha) := width groups a
    let (lb, hb) := width groups b
    (min la lb, max ha hb)
  | .loop least most _ body =>
    let (l, h) := width groups body
    let high := match most with
      | some n => h * n
      | none => if h = 0 then 0 else maxWidth
    (min (l * least) maxWidth, min high maxWidth)
  | .group _ body => width groups body
  | .scoped _ _ body => width groups body
  | .atomic body => width groups body
  | .backref i => ((groups[i]?).getD none).getD (0, 0)
  | .choice _ yes no =>
    let (la, ha) := width groups yes
    let (lb, hb) := width groups no
    (min la lb, max ha hb)

end Node

end Intake.Pattern
