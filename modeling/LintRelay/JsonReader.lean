import LintRelay.JsonToken

/-!
# Reading JSON

The reader walks over the tokens with a stack of open lists and objects. At every token it knows
what may stand there, and the first token that may not decides the error. A repeated name keeps its
first place in the object and takes its last value.
-/
namespace LintRelay.Json

/-- A list or object that is still open around the place of the reader. -/
inductive Frame where
  | list (done : List Value)
  | object (done : Fields) (name : String)
  deriving DecidableEq

inductive Expecting where
  | value
  | itemOrClose
  | nameOrClose (done : Fields)
  | name (done : Fields)
  | colon (done : Fields) (name : String)
  | behind (v : Value)
  deriving DecidableEq

/-- What is missing when the wrong token, or none, stands where something is expected. -/
def Expecting.mistake : Expecting → List Frame → Mistake
  | .value, _ | .itemOrClose, _ => .expectedValue
  | .nameOrClose _, _ | .name _, _ => .expectedName
  | .colon _ _, _ => .expectedColon
  | .behind _, [] => .extraData
  | .behind _, _ :: _ => .expectedComma

structure State where
  expecting : Expecting
  frames : List Frame
  deriving DecidableEq

def valueStep (frames : List Frame) : Lexeme → Option (Except Error State)
  | .openList => some (.ok ⟨.itemOrClose, .list [] :: frames⟩)
  | .openObject => some (.ok ⟨.nameOrClose [], frames⟩)
  | .scalar v => some (.ok ⟨.behind v, frames⟩)
  | .text s => some (.ok ⟨.behind (.str s), frames⟩)
  | .broken e => some (.error e)
  | _ => none

def nameStep (done : Fields) (frames : List Frame) : Lexeme → Option (Except Error State)
  | .text s => some (.ok ⟨.colon done s, frames⟩)
  | .broken e => some (.error e)
  | _ => none

def behindStep (v : Value) : List Frame → Lexeme → Option (Except Error State)
  | .list done :: frames, .comma => some (.ok ⟨.value, .list (v :: done) :: frames⟩)
  | .list done :: frames, .closeList => some (.ok ⟨.behind (.list (v :: done).reverse), frames⟩)
  | .object done name :: frames, .comma => some (.ok ⟨.name (Entries.put name v done), frames⟩)
  | .object done name :: frames, .closeObject =>
    some (.ok ⟨.behind (.object (Entries.put name v done)), frames⟩)
  | _, _ => none

/-- One token; nothing when it may not stand here. -/
def step : State → Lexeme → Option (Except Error State)
  | ⟨.value, frames⟩, lexeme => valueStep frames lexeme
  | ⟨.itemOrClose, .list [] :: frames⟩, .closeList => some (.ok ⟨.behind (.list []), frames⟩)
  | ⟨.itemOrClose, frames⟩, lexeme => valueStep frames lexeme
  | ⟨.nameOrClose done, frames⟩, .closeObject => some (.ok ⟨.behind (.object done), frames⟩)
  | ⟨.nameOrClose done, frames⟩, lexeme => nameStep done frames lexeme
  | ⟨.name done, frames⟩, lexeme => nameStep done frames lexeme
  | ⟨.colon done name, frames⟩, .colon => some (.ok ⟨.value, .object done name :: frames⟩)
  | ⟨.colon _ _, _⟩, _ => none
  | ⟨.behind v, frames⟩, lexeme => behindStep v frames lexeme

/-- Read on from a state; the text ends at `size`. -/
def run (size : Nat) : State → List Token → Except Error Value
  | s, [] =>
    match s.expecting, s.frames with
    | .behind v, [] => .ok v
    | expecting, frames => .error ⟨expecting.mistake frames, size⟩
  | s, t :: rest =>
    match step s t.lexeme with
    | some (.ok s') => run size s' rest
    | some (.error e) => .error e
    | none => .error ⟨s.expecting.mistake s.frames, t.offset⟩

def readChars (cs : List Char) : Except Error Value :=
  if cs.head? = some '\ufeff' then .error ⟨.byteOrderMark, 0⟩
  else run cs.length ⟨.value, []⟩ (tokens 0 0 cs)

def read (text : String) : Except Error Value := readChars text.toList

def Mistake.words : Mistake → String
  | .expectedValue => "Expecting value"
  | .expectedName => "Expecting property name enclosed in double quotes"
  | .expectedColon => "Expecting ':' delimiter"
  | .expectedComma => "Expecting ',' delimiter"
  | .extraData => "Extra data"
  | .unterminatedText => "Unterminated string starting at"
  | .controlCharacter => "Invalid control character at"
  | .badEscape => "Invalid \\escape"
  | .badCodeUnit => "Invalid \\uXXXX escape"
  | .byteOrderMark => "Unexpected UTF-8 BOM (decode using utf-8-sig)"

def lineColumn (before : List Char) : Nat × Nat :=
  (before.count '\n' + 1, (before.reverse.takeWhile (· ≠ '\n')).length + 1)

def Error.message (text : String) (e : Error) : String :=
  let (line, column) := lineColumn (text.toList.take e.offset)
  s!"{e.mistake.words}: line {line} column {column} (char {e.offset})"

end LintRelay.Json
