/-! Why an expression cannot be used. -/

namespace PathPolicy.Regex

/-- What is wrong with the text of an expression. -/
inductive Malformed where
  | escapeAtEnd
  | badEscape
  | badCharacterName
  | octalTooLarge
  | referenceToOpenGroup
  | referenceInsideLookbehind
  | unknownGroup
  | badGroupName
  | repeatedGroupName (name : String)
  | tooManyGroups
  | unterminatedClass
  | badRange
  | nothingToRepeat
  | repeatedTwice
  | repeatBoundsSwapped
  | unexpectedEnd
  | unknownExtension
  | unterminatedComment
  | unterminatedGroup
  | tooManyBranches
  | misplacedFlags
  | badFlags
  | unbalancedParenthesis
  | lookbehindNotFixed
  | lookbehindTooLong
  | repeatInTemplate
  deriving Repr, DecidableEq

def Malformed.message : Malformed → String
  | escapeAtEnd => "a backslash ends the pattern"
  | badEscape => "bad escape"
  | badCharacterName => "unknown character name"
  | octalTooLarge => "octal escape out of range"
  | referenceToOpenGroup => "reference to a group that is still open"
  | referenceInsideLookbehind => "reference to a group of the same lookbehind"
  | unknownGroup => "reference to an unknown group"
  | badGroupName => "bad group name"
  | repeatedGroupName name => "group name given twice: " ++ name
  | tooManyGroups => "too many groups"
  | unterminatedClass => "unterminated character set"
  | badRange => "bad character range"
  | nothingToRepeat => "nothing to repeat"
  | repeatedTwice => "multiple repeat"
  | repeatBoundsSwapped => "least repeat greater than most"
  | unexpectedEnd => "unexpected end of pattern"
  | unknownExtension => "unknown extension"
  | unterminatedComment => "unterminated comment"
  | unterminatedGroup => "unterminated group"
  | tooManyBranches => "condition with more than two branches"
  | misplacedFlags => "global flags not at the start of the expression"
  | badFlags => "bad inline flags"
  | unbalancedParenthesis => "unbalanced parenthesis"
  | lookbehindNotFixed => "lookbehind without a fixed width"
  | lookbehindTooLong => "lookbehind too long"
  | repeatInTemplate => "repeat in a template"

/-- Only `malformed` is about the text; the others are limits and flags that do not
go together. -/
inductive Fault where
  | malformed (reason : Malformed)
  | repeatTooLarge
  | integerTooLong (digits : Nat)
  | localeFlag
  | asciiAndUnicode
  | flagsOutOfRange
  | lookbehindTooWide
  | tooDeep
  deriving Repr, DecidableEq

end PathPolicy.Regex
