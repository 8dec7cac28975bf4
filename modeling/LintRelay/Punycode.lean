/-!
# Code points as plain characters

A text of any code points written with letters, digits and hyphens. The plain characters come first;
behind the last hyphen numbers tell where the others are put in, in ascending order. A number is
written in digits whose thresholds adapt to the numbers before.
-/
namespace LintRelay.Punycode

inductive Problem where
  | unfinished
  | noDigit (c : Char)
  | tooGreat (n : Nat)
  deriving DecidableEq, Repr

def threshold (place bias : Nat) : Nat := min 26 (max 1 (36 * (place + 1) - bias))

/-- Bring a number below a limit, counting 36 for each division. -/
def settle : Nat → Nat → Nat → Nat × Nat
  | 0, delta, count => (delta, count)
  | steps + 1, delta, count =>
    if 455 < delta then settle steps (delta / 35) (count + 36) else (delta, count)

def adapted (delta : Nat) (isFirst : Bool) (size : Nat) : Nat :=
  let delta := if isFirst then delta / 700 else delta / 2
  let (delta, count) := settle delta (delta + delta / size) 0
  count + 36 * delta / (delta + 38)

def digit (n : Nat) : Char := if n < 26 then Char.ofNat (97 + n) else Char.ofNat (22 + n)

/-- The digits of a number. Each step divides it by ten at least. -/
def digitsOf (bias : Nat) : Nat → Nat → Nat → List Char
  | 0, _, _ => []
  | steps + 1, place, n =>
    let t := threshold place bias
    if n < t then [digit n]
    else digit (t + (n - t) % (36 - t)) :: digitsOf bias steps (place + 1) ((n - t) / (36 - t))

structure Encoding where
  delta : Nat
  bias : Nat
  placed : Nat
  isFirst : Bool
  digits : List Char

/-- Go over the text once for a code point; before it there may be smaller ones. -/
def encodePoint (m : Nat) (text : List Nat) (e : Encoding) : Encoding :=
  text.foldl (fun e c =>
    if c < m then { e with delta := e.delta + 1 }
    else if c = m then
      ⟨0, adapted e.delta e.isFirst (e.placed + 1), e.placed + 1, false,
        e.digits ++ digitsOf e.bias (e.delta + 1) 0 e.delta⟩
    else e) e

def encodePoints (text : List Nat) : Nat → List Nat → Encoding → Encoding
  | _, [], e => e
  | n, m :: rest, e =>
    let e := encodePoint m text { e with delta := e.delta + (m - n) * (e.placed + 1) }
    encodePoints text (m + 1) rest { e with delta := e.delta + 1 }

def isPlain (n : Nat) : Bool := n < 128

def insertPoint (n : Nat) : List Nat → List Nat
  | [] => [n]
  | m :: rest =>
    if n < m then n :: m :: rest else if n = m then m :: rest else m :: insertPoint n rest

def encode (text : List Nat) : List Char :=
  let plain := text.filter isPlain
  let others := (text.filter (!isPlain ·)).foldr insertPoint []
  let e := encodePoints text 128 others ⟨0, 72, plain.length, true, []⟩
  (if plain.isEmpty then [] else plain.map Char.ofNat ++ ['-']) ++ e.digits

def digitValue? (c : Char) : Option Nat :=
  if 'A' ≤ c ∧ c ≤ 'Z' then some (c.toNat - 65)
  else if '0' ≤ c ∧ c ≤ '9' then some (c.toNat - 22)
  else none

/-- The number at the beginning of some digits, and the rest. -/
def readNumber (bias : Nat) : Nat → Nat → Nat → List Char → Except Problem (Nat × List Char)
  | _, _, _, [] => .error .unfinished
  | place, weight, result, c :: rest =>
    match digitValue? c with
    | none => .error (.noDigit c)
    | some d =>
      let t := threshold place bias
      let result := result + d * weight
      if d < t then .ok (result, rest)
      else readNumber bias (place + 1) (weight * (36 - t)) result rest

/-- Put code points in as numbers tell. The last point and the place behind it are known; each step
takes at least one digit. -/
def putIn (steps point place bias : Nat) (isFirst : Bool) (text : List Nat) (digits : List Char) :
    Except Problem (List Nat) :=
  match steps, digits with
  | 0, _ | _, [] => .ok text
  | steps + 1, digits => do
    let (delta, rest) ← readNumber bias 0 1 0 digits
    let size := text.length + 1
    let point := point + (place + delta) / size
    if 0x10ffff < point then .error (.tooGreat point)
    else
      let place := (place + delta) % size
      putIn steps point (place + 1) (adapted delta isFirst size) false
        (text.take place ++ point :: text.drop place) rest

def decode (cs : List Char) : Except Problem (List Nat) :=
  let behind := (cs.reverse.takeWhile (· ≠ '-')).reverse
  let before := cs.take (cs.length - behind.length - 1)
  let digits := behind.map Char.toUpper
  putIn digits.length 128 0 72 true (before.map Char.toNat) digits

end LintRelay.Punycode
