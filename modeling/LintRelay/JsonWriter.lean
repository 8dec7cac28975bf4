import LintRelay.ShortestDecimal
import LintRelay.Value
import LintRelay.ValueText

/-!
# Writing JSON

Values are written one entry a line, two spaces deeper for each enclosing list or object, with every
character beyond printable ASCII escaped by its code units.
-/
namespace LintRelay.Json

def unitText (n : Nat) : List Char := '\\' :: 'u' :: QuotedText.hexDigits 4 n

/-- A character beyond the first 65536 is written as a pair of units. -/
def characterText (c : Char) : List Char :=
  let n := c.toNat
  if n < 0x10000 then unitText n
  else unitText (0xd800 + (n - 0x10000) / 0x400) ++ unitText (0xdc00 + (n - 0x10000) % 0x400)

def escapeChar (c : Char) : List Char :=
  if c = '"' ∨ c = '\\' then ['\\', c]
  else if c = '\n' then ['\\', 'n']
  else if c = '\r' then ['\\', 'r']
  else if c = '\t' then ['\\', 't']
  else if c = '\x08' then ['\\', 'b']
  else if c = '\x0c' then ['\\', 'f']
  else if 32 ≤ c.toNat ∧ c.toNat < 127 then [c]
  else characterText c

def quotedChars (s : String) : List Char := '"' :: s.toList.flatMap escapeChar ++ ['"']

def intChars (n : Int) : List Char :=
  if n < 0 then '-' :: Nat.toDigits 10 n.natAbs else Nat.toDigits 10 n.natAbs

def floatChars (x : Binary64) : List Char :=
  (ShortestDecimal.render ⟨"NaN", "Infinity", "-Infinity"⟩ x).toList

def newline (depth : Nat) : List Char := '\n' :: List.replicate (2 * depth) ' '

mutual

def valueChars (depth : Nat) : Value → List Char
  | .null => "null".toList
  | .bool b => if b then "true".toList else "false".toList
  | .int n => intChars n
  | .float x => floatChars x
  | .str s => quotedChars s
  | .list [] => ['[', ']']
  | .list (v :: rest) =>
    '[' :: newline (depth + 1) ++ valueChars (depth + 1) v ++ itemChars (depth + 1) rest ++
      newline depth ++ [']']
  | .object [] => ['\x7b', '\x7d']
  | .object ((name, v) :: rest) =>
    '\x7b' :: newline (depth + 1) ++ quotedChars name ++ ':' :: ' ' :: valueChars (depth + 1) v ++
      fieldChars (depth + 1) rest ++ newline depth ++ ['\x7d']

def itemChars (depth : Nat) : List Value → List Char
  | [] => []
  | v :: rest => ',' :: newline depth ++ valueChars depth v ++ itemChars depth rest

def fieldChars (depth : Nat) : List (String × Value) → List Char
  | [] => []
  | (name, v) :: rest =>
    ',' :: newline depth ++ quotedChars name ++ ':' :: ' ' :: valueChars depth v ++
      fieldChars depth rest

end

def write (v : Value) : String := String.ofList (valueChars 0 v)

end LintRelay.Json
