import Intake.Pattern.Fold
import Intake.Pattern.Reader

namespace Intake.Pattern

/-- Where a search stands: the place in the text, and the span of each group that has matched. -/
structure Place where
  offset : Nat
  groups : List (Nat × Nat × Nat)

abbrev Continue := Place → Option Place

def Category.holds (ascii : Bool) (c : Char) : Category → Bool
  | .digit => if ascii then c.isDigit else Text.isDigit c
  | .space =>
    if ascii then c = ' ' || ('\t' ≤ c && c ≤ '\r') else Text.isBlank c
  | .word => if ascii then c.isAlphanum || c = '_' else Text.isWord c

def Item.holds (f : Flags) (c : Char) : Item → Bool
  | .char n =>
    if f.ignoreCase && n < 0x110000 then foldsTo f.ascii (Char.ofNat n) c else c.toNat = n
  | .range low high =>
    if f.ignoreCase then foldsIntoRange f.ascii low high c else low ≤ c.toNat && c.toNat ≤ high
  | .category kind negated => (kind.holds f.ascii c) != negated

def charBefore? (text : Array Char) (offset : Nat) : Option Char :=
  if offset = 0 then none else text[offset - 1]?

def isWordAt (f : Flags) (c : Option Char) : Bool := c.any (Category.word.holds f.ascii)

def atBoundary (text : Array Char) (f : Flags) (offset : Nat) : Bool :=
  isWordAt f (charBefore? text offset) != isWordAt f text[offset]?

def Anchor.holds (text : Array Char) (f : Flags) (offset : Nat) : Anchor → Bool
  | .textStart => offset = 0
  | .textEnd => offset = text.size
  | .lineStart => offset = 0 || f.multiline && charBefore? text offset = some '\n'
  | .lineEnd =>
    offset = text.size || offset + 1 = text.size && text[offset]? = some '\n'
      || f.multiline && text[offset]? = some '\n'
  | .boundary => text.size ≠ 0 && atBoundary text f offset
  | .nonBoundary => text.size ≠ 0 && !atBoundary text f offset

/-- Goes on past the next character if it is one of those asked for. -/
def takeOne (text : Array Char) (holds : Char → Bool) (k : Continue) (p : Place) : Option Place :=
  match text[p.offset]? with
  | some c => if holds c then k { p with offset := p.offset + 1 } else none
  | none => none

/-- A body matched exactly so many times. -/
def exactly (body : Continue → Continue) (k : Continue) : Nat → Continue
  | 0 => k
  | n + 1 => body (exactly body k n)

/-- More rounds of a body while that is possible, and then what follows. A round that took nothing is
not followed by another. -/
def moreGreedy (body : Continue → Continue) (k : Continue) : Nat → Option Nat → Option Nat → Continue
  | 0, _, _ => k
  | fuel + 1, left, last => fun p =>
    if left = some 0 || last = some p.offset then k p
    else
      match body (moreGreedy body k fuel (left.map (· - 1)) (some p.offset)) p with
      | some q => some q
      | none => k p

/-- What follows, or one more round of a body and again what follows. -/
def moreLazy (body : Continue → Continue) (k : Continue) : Nat → Option Nat → Option Nat → Continue
  | 0, _, _ => k
  | fuel + 1, left, last => fun p =>
    match k p with
    | some q => some q
    | none =>
      if left = some 0 || last = some p.offset then none
      else body (moreLazy body k fuel (left.map (· - 1)) (some p.offset)) p

/-- The text of a group, if it has matched. -/
def groupText? (text : Array Char) (p : Place) (index : Nat) : Option (List Char) :=
  (p.groups.lookup index).map fun (start, stop) => (text.extract start stop).toList

/-- Goes on past a copy of the given characters. -/
def takeCopy (text : Array Char) (f : Flags) (k : Continue) : List Char → Continue
  | [] => k
  | c :: rest =>
    let same := fun d => if f.ignoreCase then foldChar f.ascii c = foldChar f.ascii d else c = d
    takeOne text same (takeCopy text f k rest)

/-- Matches a node at a place and goes on. Alternatives are tried in order until what follows
matches too. -/
def Node.run (text : Array Char) : Node → Flags → Continue → Continue
  | .empty, _, k => k
  | .any, f, k => takeOne text (fun c => f.dotAll || c != '\n') k
  | .set negated items, f, k => takeOne text (fun c => items.any (Item.holds f c) != negated) k
  | .anchor a, f, k => fun p => if a.holds text f p.offset then k p else none
  | .seq a b, f, k => a.run text f (b.run text f k)
  | .alt a b, f, k => fun p =>
    match a.run text f k p with
    | some q => some q
    | none => b.run text f k p
  | .loop least most greed body, f, k =>
    let left := most.map (· - least)
    let fuel := text.size + 2
    match greed with
    | .greedy => exactly (body.run text f) (moreGreedy (body.run text f) k fuel left none) least
    | .lazy => exactly (body.run text f) (moreLazy (body.run text f) k fuel left none) least
    | .possessive => fun p =>
      match exactly (body.run text f) (moreGreedy (body.run text f) some fuel left none) least p with
      | some q => k q
      | none => none
  | .group index body, f, k => fun p =>
    body.run text f (fun q => k { q with groups := (index, p.offset, q.offset) :: q.groups }) p
  | .scoped added removed body, f, k => body.run text (f.change added removed) k
  | .atomic body, f, k => fun p =>
    match body.run text f some p with
    | some q => k q
    | none => none
  | .look behind negated width body, f, k => fun p =>
    let start := if behind then p.offset - width else p.offset
    let found :=
      if behind && p.offset < width then none else body.run text f some { p with offset := start }
    match found, negated with
    | some q, false => k { q with offset := p.offset }
    | none, true => k p
    | _, _ => none
  | .backref index, f, k => fun p =>
    match groupText? text p index with
    | some cs => takeCopy text f k cs p
    | none => none
  | .choice index yes no, f, k => fun p =>
    if (p.groups.lookup index).isSome then yes.run text f k p else no.run text f k p

/-- Whether a pattern matches somewhere in a text. -/
def Compiled.found (c : Compiled) (s : String) : Bool :=
  let text := s.toList.toArray
  (List.range (text.size + 1)).any fun start =>
    (c.node.run text c.flags some ⟨start, []⟩).isSome

end Intake.Pattern
