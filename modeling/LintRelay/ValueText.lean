import LintRelay.CharacterTables
import LintRelay.ShortestDecimal
import LintRelay.Value

/-!
# Texts of values

How a value reads inside a message or a command line flag. A text stands for itself on its own and
is quoted inside a list or an object; truth values and null are capitalized words.
-/
namespace LintRelay

namespace QuotedText

def hexDigit (n : Nat) : Char := if n < 10 then Char.ofNat (48 + n) else Char.ofNat (87 + n)

def hexDigits : Nat → Nat → List Char
  | 0, _ => []
  | count + 1, n => hexDigits count (n / 16) ++ [hexDigit (n % 16)]

/-- A character without a printed form is written by its code point, as briefly as it fits. -/
def codePoint (c : Char) : List Char :=
  let n := c.toNat
  if n < 256 then '\\' :: 'x' :: hexDigits 2 n
  else if n < 65536 then '\\' :: 'u' :: hexDigits 4 n
  else '\\' :: 'U' :: hexDigits 8 n

def escapeChar (mark : Char) (c : Char) : List Char :=
  if c = mark ∨ c = '\\' then ['\\', c]
  else if c = '\n' then ['\\', 'n']
  else if c = '\r' then ['\\', 'r']
  else if c = '\t' then ['\\', 't']
  else if CharacterTables.isPrintable c then [c]
  else codePoint c

/-- Single marks, unless the text holds one and no double mark. -/
def markFor (cs : List Char) : Char := if '\'' ∈ cs ∧ '"' ∉ cs then '"' else '\''

def encode (cs : List Char) : List Char :=
  let mark := markFor cs
  mark :: cs.flatMap (escapeChar mark) ++ [mark]

end QuotedText

def quoted (s : String) : String := String.ofList (QuotedText.encode s.toList)

namespace Binary64

def text (x : Binary64) : String := ShortestDecimal.render ⟨"nan", "inf", "-inf"⟩ x

end Binary64

namespace Value

mutual

def innerText : Value → String
  | null => "None"
  | bool b => if b then "True" else "False"
  | int n => toString n
  | float x => x.text
  | str s => quoted s
  | list items => "[" ++ itemTexts items ++ "]"
  | object fields => "\x7b" ++ fieldTexts fields ++ "\x7d"

def itemTexts : List Value → String
  | [] => ""
  | [v] => innerText v
  | v :: rest => innerText v ++ ", " ++ itemTexts rest

def fieldTexts : List (String × Value) → String
  | [] => ""
  | [(name, v)] => quoted name ++ ": " ++ innerText v
  | (name, v) :: rest => quoted name ++ ": " ++ innerText v ++ ", " ++ fieldTexts rest

end

def text : Value → String
  | str s => s
  | v => innerText v

end Value

end LintRelay
