import LintRelay.Authority
import LintRelay.HostName
import LintRelay.LiteralMistake
import LintRelay.Utf8

/-!
# Faults

What can end an operation, by cause, and the words for each cause.
-/
namespace LintRelay

inductive FileProblem where
  | missing
  | isFolder
  | notFolder
  | nameTooLong
  | denied
  deriving DecidableEq, Repr

def FileProblem.number : FileProblem → Nat
  | .missing => 2
  | .denied => 13
  | .notFolder => 20
  | .isFolder => 21
  | .nameTooLong => 36

def FileProblem.words : FileProblem → String
  | .missing => "No such file or directory"
  | .denied => "Permission denied"
  | .notFolder => "Not a directory"
  | .isFolder => "Is a directory"
  | .nameTooLong => "File name too long"

def FileProblem.message (problem : FileProblem) (path : String) : String :=
  s!"[Errno {problem.number}] {problem.words}: {quoted path}"

inductive Axis where
  | line
  | character
  deriving DecidableEq, Repr

def Axis.word : Axis → String
  | .line => "line"
  | .character => "character"

/-- What ends an operation. A fault that tells of a kind has met a value of it where another was needed. -/
inductive Fault where
  | noMember (kind : Kind) (member : String)
  | pathKind (kind : Kind)
  | writtenKind (kind : Kind)
  | searchedKind (kind : Kind)
  | commandKind (kind : Kind)
  | wholeKind (kind : Kind)
  | nameKind (kind : Kind)
  | fileNameKind (kind : Kind)
  | containerKind (kind : Kind)
  | wholeOfNan
  | wholeOfInfinity
  | badNumeral (text : String)
  | tooManyDigits (n : Nat)
  | tooDeep (kind : Kind)
  | nullCharacter
  | file (problem : FileProblem) (path : String)
  /-- A command, shown as messages show it, may not be run. -/
  | forbidden (command : String)
  | badBytes (fault : Utf8.Fault)
  | position (axis : Axis) (n : Int)
  | messageKind (kind : Kind)
  | provider (reason : String)
  | interrupted
  | badOptions (reason : String)
  | closesNothing (position : Nat)
  | closesUnopened (tag : String) (position : Nat)
  /-- What is given to a handler, as it is read and as it is written, is no literal. -/
  | handlerMistake (read written : String) (mistake : Literal.Mistake)
  | handlerProblem (written : String) (problem : Literal.Problem)
  | authority (defect : Authority.Defect)
  | portText (port : String)
  | portRange
  | hostEncoding (problem : HostName.Problem)
  | hostDecoding (problem : HostName.Problem)
  | notOpen (uri : String)
  | headerLineBreak
  deriving DecidableEq

namespace Fault

def greatestPosition : Int := 2147483647

def mostDigits : Nat := 4300

def reasonWords : Utf8.Reason → String
  | .startByte => "invalid start byte"
  | .continuationByte => "invalid continuation byte"
  | .endOfData => "unexpected end of data"

def bytesMessage (f : Utf8.Fault) : String :=
  if f.first = f.last then
    let lead := String.ofList (QuotedText.hexDigits 2 f.lead.toNat)
    s!"'utf-8' codec can't decode byte 0x{lead} in position {f.first}: {reasonWords f.reason}"
  else
    s!"'utf-8' codec can't decode bytes in position {f.first}-{f.last}: {reasonWords f.reason}"

/-- At most the first two hundred characters of a quoted numeral are shown. -/
def numeralMessage (text : String) : String :=
  let shown := String.ofList ((QuotedText.encode text.toList).take 200)
  s!"invalid literal for int() with base 10: {shown}"

def digitsMessage (n : Nat) : String :=
  s!"Exceeds the limit ({mostDigits} digits) for integer string conversion: value has {n} digits; " ++
    "use sys.set_int_max_str_digits() to increase the limit"

def depthMessage : Kind → String
  | .object => "maximum recursion depth exceeded while decoding a JSON object from a unicode string"
  | _ => "maximum recursion depth exceeded while decoding a JSON array from a unicode string"

def message : Fault → String
  | noMember kind member => s!"'{kind.word}' object has no attribute '{member}'"
  | pathKind kind => s!"expected str, bytes or os.PathLike object, not {kind.word}"
  | writtenKind .null => "write() argument must be str, not None"
  | writtenKind kind => s!"write() argument must be str, not {kind.word}"
  | searchedKind kind => s!"expected string or bytes-like object, got '{kind.word}'"
  | commandKind kind => s!"sequence item 0: expected str instance, {kind.word} found"
  | wholeKind kind =>
    s!"int() argument must be a string, a bytes-like object or a real number, not '{kind.word}'"
  | nameKind kind => s!"unhashable type: '{kind.word}'"
  | fileNameKind kind => s!"unsupported operand type(s) for /: 'PosixPath' and '{kind.word}'"
  | containerKind kind => s!"argument of type '{kind.word}' is not iterable"
  | wholeOfNan => "cannot convert float NaN to integer"
  | wholeOfInfinity => "cannot convert float infinity to integer"
  | badNumeral text => numeralMessage text
  | tooManyDigits n => digitsMessage n
  | tooDeep kind => depthMessage kind
  | nullCharacter => "embedded null byte"
  | file problem path => problem.message path
  | forbidden command => s!"[Errno 13] Permission denied: {command}"
  | badBytes fault => bytesMessage fault
  | position axis n =>
    s!"Position.{axis.word} should be in range [0:{greatestPosition}], but was {n}."
  | messageKind kind => s!"a diagnostic message is a text, not {kind.word}"
  | provider reason => reason
  | interrupted => ""
  | badOptions reason => reason
  | closesNothing place => s!"closing tag '[/]' at position {place} has nothing to close"
  | closesUnopened tag place =>
    s!"closing tag '[{tag}]' at position {place} doesn't match any open tag"
  | handlerMistake read written mistake =>
    s!"error parsing {quoted read} in {quoted written}; {mistake.message}"
  | handlerProblem written problem => s!"error parsing {quoted written}; {problem.message}"
  | authority defect => defect.message
  | portText port => s!"Port could not be cast to integer value as {quoted port}"
  | portRange => "Port out of range 0-65535"
  | hostEncoding problem => problem.message "encoding"
  | hostDecoding problem => problem.message "decoding"
  | notOpen uri => quoted uri
  | headerLineBreak => "Header values must not contain newline characters."

end Fault

end LintRelay
