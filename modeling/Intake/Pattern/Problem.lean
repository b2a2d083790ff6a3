import Intake.Text.Quoted

namespace Intake.Pattern

/-- What is wrong with a pattern. -/
inductive Cause where
  | badEscapeAtEnd
  | badEscape (escape : String)
  | incompleteEscape (escape : String)
  | octalTooLarge (escape : String)
  | missingBrace
  | unknownCharacterName (name : String)
  | missingName (what : String)
  | unterminatedName (terminator : String)
  | badGroupName (name : String)
  | unknownGroupName (name : String)
  | repeatedGroupName (name : String) (index previous : Nat)
  | openGroup
  | sameLookbehind
  | unknownGroup (index : Nat)
  | badGroupNumber
  | unterminatedSet
  | badRange (low high : String)
  | crossedRepeat
  | nothingToRepeat
  | multipleRepeat
  | unexpectedEnd
  | unknownExtension (text : String)
  | unterminatedComment
  | unterminatedGroup
  | tooManyBranches
  | lateFlags
  | localeFlag
  | mixedKinds
  | missingFlagEnd
  | unknownFlag
  | missingFlag
  | missingColon
  | globalTurnedOn
  | globalTurnedOff
  | kindTurnedOff
  | onAndOff
  | unbalanced
  | unboundedLookbehind
  | templateRepeat
  deriving DecidableEq, Repr

/-- A name in quotes. -/
def quotedName (name : String) : String := String.ofList (Text.quoted name.toList)

def Cause.text : Cause → String
  | .badEscapeAtEnd => "bad escape (end of pattern)"
  | .badEscape escape => "bad escape " ++ escape
  | .incompleteEscape escape => "incomplete escape " ++ escape
  | .octalTooLarge escape => "octal escape value " ++ escape ++ " outside of range 0-0o377"
  | .missingBrace => "missing \x7b"
  | .unknownCharacterName name => "undefined character name " ++ quotedName name
  | .missingName what => "missing " ++ what
  | .unterminatedName terminator => "missing " ++ terminator ++ ", unterminated name"
  | .badGroupName name => "bad character in group name " ++ quotedName name
  | .unknownGroupName name => "unknown group name " ++ quotedName name
  | .repeatedGroupName name index previous =>
    "redefinition of group name " ++ quotedName name ++ " as group " ++ toString index ++
      "; was group " ++ toString previous
  | .openGroup => "cannot refer to an open group"
  | .sameLookbehind => "cannot refer to group defined in the same lookbehind subpattern"
  | .unknownGroup index => "invalid group reference " ++ toString index
  | .badGroupNumber => "bad group number"
  | .unterminatedSet => "unterminated character set"
  | .badRange low high => "bad character range " ++ low ++ "-" ++ high
  | .crossedRepeat => "min repeat greater than max repeat"
  | .nothingToRepeat => "nothing to repeat"
  | .multipleRepeat => "multiple repeat"
  | .unexpectedEnd => "unexpected end of pattern"
  | .unknownExtension text => "unknown extension " ++ text
  | .unterminatedComment => "missing ), unterminated comment"
  | .unterminatedGroup => "missing ), unterminated subpattern"
  | .tooManyBranches => "conditional backref with more than two branches"
  | .lateFlags => "global flags not at the start of the expression"
  | .localeFlag => "bad inline flags: cannot use 'L' flag with a str pattern"
  | .mixedKinds => "bad inline flags: flags 'a', 'u' and 'L' are incompatible"
  | .missingFlagEnd => "missing -, : or )"
  | .unknownFlag => "unknown flag"
  | .missingFlag => "missing flag"
  | .missingColon => "missing :"
  | .globalTurnedOn => "bad inline flags: cannot turn on global flag"
  | .globalTurnedOff => "bad inline flags: cannot turn off global flag"
  | .kindTurnedOff => "bad inline flags: cannot turn off flags 'a', 'u' and 'L'"
  | .onAndOff => "bad inline flags: flag turned on and off"
  | .unbalanced => "unbalanced parenthesis"
  | .unboundedLookbehind => "look-behind requires fixed-width pattern"
  | .templateRepeat => "internal: unsupported template operator MAX_REPEAT"

/-- A pattern that cannot be used: it is malformed, most often at a place; or a repetition count is
out of bounds; or it asks for two alphabets at once. -/
inductive Problem where
  | malformed (message : String)
  | tooLarge
  | mixedAlphabets
  deriving DecidableEq, Repr

/-- A cause with its place; a pattern of several lines also names line and column. -/
def Problem.at (pattern : List Char) (cause : Cause) (offset : Nat) : Problem :=
  let before := pattern.take offset
  let line := (before.filter (· = '\n')).length + 1
  let column := (before.reverse.takeWhile (· ≠ '\n')).length + 1
  let place := cause.text ++ " at position " ++ toString offset
  .malformed (if pattern.contains '\n' then
      place ++ " (line " ++ toString line ++ ", column " ++ toString column ++ ")"
    else place)

end Intake.Pattern
