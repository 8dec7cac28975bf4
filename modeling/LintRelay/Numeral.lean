import LintRelay.Fault

/-!
# Whole numbers from values

Truth values count as 1 and 0, binary numbers lose their fraction, and a text is read as a decimal
numeral: blanks around it, a sign, and digits of any script with single underscores between them.
-/
namespace LintRelay.Numeral

/-- Digits of every script as ASCII digits, and blanks of every kind as spaces. -/
def plainChar (c : Char) : Char :=
  if c.toNat < 127 then c
  else if CharacterTables.isBlank c then ' '
  else
    match CharacterTables.digitValue? c with
    | some d => Char.ofNat (48 + d)
    | none => '?'

def isSpace (c : Char) : Bool := c = ' ' || (9 ≤ c.toNat && c.toNat ≤ 13)

def trim (cs : List Char) : List Char :=
  ((cs.dropWhile isSpace).reverse.dropWhile isSpace).reverse

/-- Digits with single underscores between them. The flag says that a digit must follow. -/
def digits? (needDigit : Bool) (n : Nat) : List Char → Option Nat
  | [] => if needDigit then none else some n
  | c :: rest =>
    if c.isDigit then digits? false (10 * n + (c.toNat - 48)) rest
    else if c = '_' && !needDigit then digits? true n rest
    else none

/-- How many digits stand at the head of a text; none where they are not set off from each other as they
should be. -/
def digitCount? (needDigit : Bool) (n : Nat) : List Char → Option Nat
  | [] => if needDigit then none else some n
  | c :: rest =>
    if c.isDigit then digitCount? false (n + 1) rest
    else if needDigit then none
    else if c = '_' then digitCount? true n rest
    else some n

def unsigned : List Char → List Char
  | '-' :: rest => rest
  | '+' :: rest => rest
  | cs => cs

def ofChars? (cs : List Char) : Option Int :=
  match trim (cs.map plainChar) with
  | '-' :: rest => (digits? true 0 rest).map fun n => -(n : Int)
  | '+' :: rest => (digits? true 0 rest).map fun n => (n : Int)
  | rest => (digits? true 0 rest).map fun n => (n : Int)

def excess? (cs : List Char) : Option Nat :=
  (digitCount? true 0 (unsigned (trim (cs.map plainChar)))).filter (Fault.mostDigits < ·)

def ofText (s : String) : Except Fault Int :=
  match excess? s.toList, ofChars? s.toList with
  | some n, _ => .error (.tooManyDigits n)
  | none, some n => .ok n
  | none, none => .error (.badNumeral s)

end LintRelay.Numeral

namespace LintRelay.Value

def whole? : Value → Except Fault Int
  | bool b => .ok (if b then 1 else 0)
  | int n => .ok n
  | float (.finite v) => .ok (Binary64.wholePart v)
  | float .negativeZero => .ok 0
  | float .nan => .error .wholeOfNan
  | float (.infinite _) => .error .wholeOfInfinity
  | str s => Numeral.ofText s
  | v => .error (.wholeKind v.kind)

end LintRelay.Value
