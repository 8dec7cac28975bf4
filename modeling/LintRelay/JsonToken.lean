import LintRelay.Value

/-!
# Tokens of a JSON text

A text is cut into marks, names and scalar values, each with the place where it starts. Blanks
between tokens are the space, the tab, the line feed and the carriage return. Cutting ends at the
first place where no token starts and at the first quoted text that cannot be read; what that means
for the reader is decided by what it expects there.
-/
namespace LintRelay.Json

inductive Mistake where
  | expectedValue
  | expectedName
  | expectedColon
  | expectedComma
  | extraData
  | unterminatedText
  | controlCharacter
  | badEscape
  | badCodeUnit
  | byteOrderMark
  deriving DecidableEq, Repr

/-- What is wrong, and the number of characters before the place where it is. -/
structure Error where
  mistake : Mistake
  offset : Nat
  deriving DecidableEq, Repr

inductive Lexeme where
  | openList
  | closeList
  | openObject
  | closeObject
  | comma
  | colon
  | scalar (v : Value)
  | text (s : String)
  | broken (e : Error)
  | stray
  deriving DecidableEq

structure Token where
  offset : Nat
  lexeme : Lexeme
  deriving DecidableEq

def isSpace (c : Char) : Bool := c = ' ' || c = '\t' || c = '\n' || c = '\r'

def hexValue? (c : Char) : Option Nat :=
  if '0' ≤ c ∧ c ≤ '9' then some (c.toNat - 48)
  else if 'a' ≤ c ∧ c ≤ 'f' then some (c.toNat - 87)
  else if 'A' ≤ c ∧ c ≤ 'F' then some (c.toNat - 55)
  else none

/-- Four hexadecimal digits that are not the last characters of the text. -/
def codeUnit? : List Char → Option Nat
  | a :: b :: c :: d :: _ :: _ => do
    let w ← hexValue? a
    let x ← hexValue? b
    let y ← hexValue? c
    let z ← hexValue? d
    pure (((w * 16 + x) * 16 + y) * 16 + z)
  | _ => none

def isHighUnit (n : Nat) : Bool := 0xd800 ≤ n && n < 0xdc00

def isLowUnit (n : Nat) : Bool := 0xdc00 ≤ n && n < 0xe000

def joinUnits (high low : Nat) : Nat := 0x10000 + (high - 0xd800) * 0x400 + (low - 0xdc00)

/-- Half of a pair that stands alone denotes no character and becomes the replacement one. -/
def unitChar (n : Nat) : Char :=
  if isHighUnit n || isLowUnit n then Char.ofNat 0xfffd else Char.ofNat n

/-- The character for the code unit after a backslash at `offset`, and the number of characters used
after the backslash. A high half is joined with a low half right behind it. -/
def unitEscape (offset : Nat) (units : List Char) : Except Error (Char × Nat) :=
  match codeUnit? units with
  | none => .error ⟨.badCodeUnit, offset + 1⟩
  | some n =>
    match units.drop 4 with
    | '\\' :: 'u' :: more =>
      if isHighUnit n && 4 < more.length then
        match codeUnit? more with
        | none => .error ⟨.badCodeUnit, offset + 7⟩
        | some m =>
          if isLowUnit m then .ok (Char.ofNat (joinUnits n m), 11) else .ok (unitChar n, 5)
      else .ok (unitChar n, 5)
    | _ => .ok (unitChar n, 5)

def shortEscape? (c : Char) : Option Char :=
  if c = '"' ∨ c = '\\' ∨ c = '/' then some c
  else if c = 'b' then some '\x08'
  else if c = 'f' then some '\x0c'
  else if c = 'n' then some '\n'
  else if c = 'r' then some '\r'
  else if c = 't' then some '\t'
  else none

def escapeAt (start offset : Nat) : List Char → Except Error (Char × Nat)
  | [] => .error ⟨.unterminatedText, start⟩
  | c :: rest =>
    if c = 'u' then unitEscape offset rest
    else
      match shortEscape? c with
      | some d => .ok (d, 1)
      | none => .error ⟨.badEscape, offset⟩

/-- The content of the quoted text opened at `start`, and the place behind its closing mark. The
first argument counts characters that an escape has already used. -/
def textBody (start : Nat) : Nat → Nat → List Char → Except Error (List Char × Nat)
  | _, _, [] => .error ⟨.unterminatedText, start⟩
  | skip + 1, offset, _ :: rest => textBody start skip (offset + 1) rest
  | 0, offset, c :: rest =>
    if c = '"' then .ok ([], offset + 1)
    else if c = '\\' then
      match escapeAt start offset rest with
      | .error e => .error e
      | .ok (d, used) => (textBody start used (offset + 1) rest).map fun r => (d :: r.1, r.2)
    else if c.toNat < 32 then .error ⟨.controlCharacter, offset⟩
    else (textBody start 0 (offset + 1) rest).map fun r => (c :: r.1, r.2)

def digitsValue (cs : List Char) : Nat := cs.foldl (fun n c => 10 * n + (c.toNat - 48)) 0

/-- The digits of a whole number: a zero stands alone. -/
def wholeDigits : List Char → List Char
  | '0' :: _ => ['0']
  | cs => cs.takeWhile Char.isDigit

def fractionDigits : List Char → List Char
  | '.' :: rest => rest.takeWhile Char.isDigit
  | _ => []

/-- The sign, the digits and the length of an exponent, if one with a digit stands here. -/
def exponentPart : List Char → Option (Bool × List Char × Nat)
  | c :: rest =>
    if c = 'e' ∨ c = 'E' then
      let (negative, used, digits) :=
        match rest with
        | '-' :: more => (true, 2, more.takeWhile Char.isDigit)
        | '+' :: more => (false, 2, more.takeWhile Char.isDigit)
        | _ => (false, 1, rest.takeWhile Char.isDigit)
      if digits.isEmpty then none else some (negative, digits, used + digits.length)
    else none
  | [] => none

/-- The unsigned number at the head of a text with its length; one with a fraction or an exponent
is binary. -/
def unsigned? (negative : Bool) (cs : List Char) : Option (Value × Nat) :=
  let whole := wholeDigits cs
  if whole.isEmpty then none
  else
    let afterWhole := cs.drop whole.length
    let fraction := fractionDigits afterWhole
    let fractionLength := if fraction.isEmpty then 0 else fraction.length + 1
    let used := whole.length + fractionLength
    match exponentPart (afterWhole.drop fractionLength) with
    | some (down, digits, length) =>
      let exponent : Int := digitsValue digits
      let x := Binary64.ofDecimal negative (digitsValue (whole ++ fraction))
        ((if down then -exponent else exponent) - fraction.length)
      some (.float x, used + length)
    | none =>
      if fraction.isEmpty then
        let n : Int := digitsValue whole
        some (.int (if negative then -n else n), used)
      else
        let x := Binary64.ofDecimal negative (digitsValue (whole ++ fraction)) (-fraction.length)
        some (.float x, used)

def words : List (List Char × Value) :=
  [("null".toList, .null), ("true".toList, .bool true), ("false".toList, .bool false),
   ("NaN".toList, .float .nan), ("Infinity".toList, .float (.infinite false)),
   ("-Infinity".toList, .float (.infinite true))]

def scalar? (cs : List Char) : Option (Value × Nat) :=
  match words.find? fun w => w.1.isPrefixOf cs with
  | some (word, v) => some (v, word.length)
  | none =>
    match cs with
    | '-' :: rest => (unsigned? true rest).map fun r => (r.1, r.2 + 1)
    | _ => unsigned? false cs

def mark? (c : Char) : Option Lexeme :=
  if c = '[' then some .openList
  else if c = ']' then some .closeList
  else if c = '\x7b' then some .openObject
  else if c = '\x7d' then some .closeObject
  else if c = ',' then some .comma
  else if c = ':' then some .colon
  else none

/-- The tokens of a text whose first character stands at `offset`. The first argument counts
characters that belong to a token already cut. -/
def tokens : Nat → Nat → List Char → List Token
  | _, _, [] => []
  | skip + 1, offset, _ :: rest => tokens skip (offset + 1) rest
  | 0, offset, c :: rest =>
    if isSpace c then tokens 0 (offset + 1) rest
    else
      match mark? c with
      | some m => ⟨offset, m⟩ :: tokens 0 (offset + 1) rest
      | none =>
        if c = '"' then
          match textBody offset 0 (offset + 1) rest with
          | .error e => [⟨offset, .broken e⟩]
          | .ok (s, behind) =>
            ⟨offset, .text (String.ofList s)⟩ :: tokens (behind - (offset + 1)) (offset + 1) rest
        else
          match scalar? (c :: rest) with
          | some (v, used) => ⟨offset, .scalar v⟩ :: tokens (used - 1) (offset + 1) rest
          | none => [⟨offset, .stray⟩]

theorem tokens_append (xs rest : List Char) (offset : Nat) :
    tokens xs.length offset (xs ++ rest) = tokens 0 (offset + xs.length) rest := by
  induction xs generalizing offset with
  | nil => rfl
  | cons x xs ih =>
    rw [List.length_cons, List.cons_append, tokens, ih]
    congr 1
    omega

end LintRelay.Json
