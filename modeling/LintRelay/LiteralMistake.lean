import LintRelay.ValueText

/-!
# Mistakes in literals

What can be wrong with a literal, by cause, and the words for each cause. A mistake is in how it is
written, a problem in what it stands for.
-/
namespace LintRelay.Literal

inductive NumberKind where
  | decimal
  | hexadecimal
  | octal
  | binary
  | imaginary
  deriving DecidableEq, Repr

def NumberKind.word : NumberKind → String
  | decimal => "decimal"
  | hexadecimal => "hexadecimal"
  | octal => "octal"
  | binary => "binary"
  | imaginary => "imaginary"

inductive Escape where
  | short
  | middle
  | long
  | beyond
  | malformedName
  | unknownName
  deriving DecidableEq, Repr

def Escape.words : Escape → String
  | short => "truncated \\xXX escape"
  | middle => "truncated \\uXXXX escape"
  | long => "truncated \\UXXXXXXXX escape"
  | beyond => "illegal Unicode character"
  | malformedName => "malformed \\N character escape"
  | unknownName => "unknown Unicode character name"

inductive Mistake where
  | number (kind : NumberKind)
  | digit (digit : Char) (kind : NumberKind)
  | leadingZeros
  | character (c : Char)
  | unterminatedText (line : Nat)
  | unterminatedLongText (line : Nat)
  | unmatched (closing : Char)
  /-- The line is given where the opening bracket stands on another one. -/
  | mismatched (closing opening : Char) (line : Option Nat)
  | tooManyBrackets
  | neverClosed (opening : Char)
  | unexpectedEnd
  | afterContinuation
  | bytesNotAscii
  | mixedTexts
  | textEscape (escape : Escape) (first last : Nat)
  | bytesEscape (position : Nat)
  | invalid
  | unexpectedIndent
  | unexpectedDedent
  | forgottenComma
  | missingElse
  | missingCallBrackets (name : String)
  | namedTarget (thing : String)
  | oneEqualsSign
  | assignedHere (thing : String)
  | assigned (thing : String)
  | assignedArgument
  | bareGenerator
  | starAfterDoubleStar
  | positionalAfterUnpacking
  | positionalAfterNamed
  | unpackedElement
  | bareTarget
  | unpackedEntry
  | starred
  | doubleStarred
  | starredValue
  | missingValue
  | missingColon
  | requiredAfterOptional
  | bracketedParameters
  | nothingBeforeSlash
  | secondSlash
  | slashAfterStar
  | slashThenStar
  | nothingAfterStar
  | starWithDefault
  | secondStar
  | doubleStarWithDefault
  | afterDoubleStar
  | missingDefault
  | invalidBrace
  | openBrace
  | deepBraces
  | braceBackslash
  | braceComment
  | braceText
  | braceUnmatched (bracket : Char)
  | braceMismatched (closing opening : Char)
  | braceEmpty
  | braceNothingBefore (mark : Char)
  | braceConversion
  | inBraces (mistake : Mistake)
  deriving DecidableEq

namespace Mistake

def positions (first last : Nat) : String :=
  if first = last then s!"byte 0x5c in position {first}" else s!"bytes in position {first}-{last}"

def characterMessage (c : Char) : String :=
  let digits := (Nat.toDigits 16 c.toNat).map Char.toUpper
  let code := String.ofList (List.replicate (4 - digits.length) '0' ++ digits)
  if CharacterTables.isPrintable c then s!"invalid character '{c}' (U+{code})"
  else s!"invalid non-printable character U+{code}"

def message : Mistake → String
  | number kind => s!"invalid {kind.word} literal"
  | digit d kind => s!"invalid digit '{d}' in {kind.word} literal"
  | leadingZeros =>
    "leading zeros in decimal integer literals are not permitted; " ++
      "use an 0o prefix for octal integers"
  | character c => characterMessage c
  | unterminatedText line => s!"unterminated string literal (detected at line {line})"
  | unterminatedLongText line =>
    s!"unterminated triple-quoted string literal (detected at line {line})"
  | unmatched c => s!"unmatched '{c}'"
  | mismatched c o none => s!"closing parenthesis '{c}' does not match opening parenthesis '{o}'"
  | mismatched c o (some line) =>
    s!"closing parenthesis '{c}' does not match opening parenthesis '{o}' on line {line}"
  | tooManyBrackets => "too many nested parentheses"
  | neverClosed o => s!"'{o}' was never closed"
  | unexpectedEnd => "unexpected EOF while parsing"
  | afterContinuation => "unexpected character after line continuation character"
  | bytesNotAscii => "bytes can only contain ASCII literal characters"
  | mixedTexts => "cannot mix bytes and nonbytes literals"
  | textEscape escape first last =>
    s!"(unicode error) 'unicodeescape' codec can't decode {positions first last}: {escape.words}"
  | bytesEscape position => s!"(value error) invalid \\x escape at position {position}"
  | invalid => "invalid syntax"
  | unexpectedIndent => "unexpected indent"
  | unexpectedDedent => "unexpected unindent"
  | forgottenComma => "invalid syntax. Perhaps you forgot a comma?"
  | missingElse => "expected 'else' after 'if' expression"
  | missingCallBrackets name =>
    s!"Missing parentheses in call to '{name}'. Did you mean {name}(...)?"
  | namedTarget thing => s!"cannot use assignment expressions with {thing}"
  | oneEqualsSign => "invalid syntax. Maybe you meant '==' or ':=' instead of '='?"
  | assignedHere thing => s!"cannot assign to {thing} here. Maybe you meant '==' instead of '='?"
  | assigned thing => s!"cannot assign to {thing}"
  | assignedArgument => "expression cannot contain assignment, perhaps you meant \"==\"?"
  | bareGenerator => "Generator expression must be parenthesized"
  | starAfterDoubleStar => "iterable argument unpacking follows keyword argument unpacking"
  | positionalAfterUnpacking => "positional argument follows keyword argument unpacking"
  | positionalAfterNamed => "positional argument follows keyword argument"
  | unpackedElement => "iterable unpacking cannot be used in comprehension"
  | bareTarget => "did you forget parentheses around the comprehension target?"
  | unpackedEntry => "dict unpacking cannot be used in dict comprehension"
  | starred => "cannot use starred expression here"
  | doubleStarred => "cannot use double starred expression here"
  | starredValue => "cannot use a starred expression in a dictionary value"
  | missingValue => "expression expected after dictionary key and ':'"
  | missingColon => "':' expected after dictionary key"
  | requiredAfterOptional => "non-default argument follows default argument"
  | bracketedParameters => "Lambda expression parameters cannot be parenthesized"
  | nothingBeforeSlash => "at least one argument must precede /"
  | secondSlash => "/ may appear only once"
  | slashAfterStar => "/ must be ahead of *"
  | slashThenStar => "expected comma between / and *"
  | nothingAfterStar => "named arguments must follow bare *"
  | starWithDefault => "var-positional argument cannot have default value"
  | secondStar => "* argument may appear only once"
  | doubleStarWithDefault => "var-keyword argument cannot have default value"
  | afterDoubleStar => "arguments cannot follow var-keyword argument"
  | missingDefault => "expected default value expression"
  | invalidBrace => "f-string: single '\x7d' is not allowed"
  | openBrace => "f-string: expecting '\x7d'"
  | deepBraces => "f-string: expressions nested too deeply"
  | braceBackslash => "f-string expression part cannot include a backslash"
  | braceComment => "f-string expression part cannot include '#'"
  | braceText => "f-string: unterminated string"
  | braceUnmatched c => s!"f-string: unmatched '{c}'"
  | braceMismatched c o =>
    s!"f-string: closing parenthesis '{c}' does not match opening parenthesis '{o}'"
  | braceEmpty => "f-string: empty expression not allowed"
  | braceNothingBefore c => s!"f-string: expression required before '{c}'"
  | braceConversion => "f-string: invalid conversion character: expected 's', 'r', or 'a'"
  | inBraces mistake => s!"f-string: {mistake.message}"

end Mistake

inductive Problem where
  /-- An element or a key of a kind that has no place among others. -/
  | unhashable (kind : String)
  | noKey
  | noLiteral
  | nullCharacter
  deriving DecidableEq

def Problem.message : Problem → String
  | unhashable kind => s!"unhashable type: '{kind}'"
  | noKey => "malformed node or string: None"
  | noLiteral => "malformed node or string"
  | nullCharacter => "source code string cannot contain null bytes"

end LintRelay.Literal
