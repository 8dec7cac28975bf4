import LintRelay.JsonLimits
import LintRelay.Utf8

/-!
# JSON in bytes

The bytes of a message body name their own encoding: by a byte order mark, or by where the zero
bytes of the first characters stand. Without a sign of another encoding they are UTF-8.
-/
namespace LintRelay.JsonBytes

inductive Encoding where
  | utf8
  | utf16 (bigEndian : Bool)
  | utf32 (bigEndian : Bool)
  deriving DecidableEq, Repr

/-- The encoding of the bytes, and how many of them are a byte order mark. -/
def detect : List UInt8 → Encoding × Nat
  | 0x00 :: 0x00 :: 0xfe :: 0xff :: _ => (.utf32 true, 4)
  | 0xff :: 0xfe :: 0x00 :: 0x00 :: _ => (.utf32 false, 4)
  | 0xfe :: 0xff :: _ => (.utf16 true, 2)
  | 0xff :: 0xfe :: _ => (.utf16 false, 2)
  | 0xef :: 0xbb :: 0xbf :: _ => (.utf8, 3)
  | a :: b :: c :: d :: _ =>
    if a = 0 then if b = 0 then (.utf32 true, 0) else (.utf16 true, 0)
    else if b = 0 then if c = 0 ∧ d = 0 then (.utf32 false, 0) else (.utf16 false, 0)
    else (.utf8, 0)
  | [a, b] =>
    if a = 0 then (.utf16 true, 0) else if b = 0 then (.utf16 false, 0) else (.utf8, 0)
  | _ => (.utf8, 0)

def unit16 (bigEndian : Bool) (a b : UInt8) : Nat :=
  if bigEndian then 256 * a.toNat + b.toNat else 256 * b.toNat + a.toNat

def units16? (bigEndian : Bool) : List UInt8 → Option (List Nat)
  | [] => some []
  | a :: b :: rest => (units16? bigEndian rest).map (unit16 bigEndian a b :: ·)
  | [_] => none

/-- Characters of 16-bit units; a half of a pair must not stand alone. -/
def chars16? : List Nat → Option (List Char)
  | [] => some []
  | n :: rest =>
    if Json.isHighUnit n then
      match rest with
      | m :: more =>
        if Json.isLowUnit m then (chars16? more).map (Char.ofNat (Json.joinUnits n m) :: ·)
        else none
      | [] => none
    else if Json.isLowUnit n then none
    else (chars16? rest).map (Char.ofNat n :: ·)

def chars32? (bigEndian : Bool) : List UInt8 → Option (List Char)
  | [] => some []
  | a :: b :: c :: d :: rest =>
    let high := if bigEndian then unit16 true a b else unit16 false c d
    let low := if bigEndian then unit16 true c d else unit16 false a b
    let n := 65536 * high + low
    if n.isValidChar then (chars32? bigEndian rest).map (Char.ofNat n :: ·) else none
  | _ => none

def chars? (bytes : List UInt8) : Option (List Char) :=
  let (encoding, mark) := detect bytes
  let bytes := bytes.drop mark
  match encoding with
  | .utf8 => (Utf8.decode bytes).toOption
  | .utf16 bigEndian => (units16? bigEndian bytes).bind chars16?
  | .utf32 bigEndian => chars32? bigEndian bytes

/-- The value in the bytes; null if there is none, or if a number in it has too many digits. -/
def valueOrNull (room : Nat) (bytes : List UInt8) : Except Fault Value :=
  match chars? bytes with
  | none => .ok .null
  | some cs =>
    match Json.excessOfChars? room cs with
    | some (.tooDeep kind) => .error (.tooDeep kind)
    | some _ => .ok .null
    | none =>
      match Json.readChars cs with
      | .ok v => .ok v
      | .error _ => .ok .null

end LintRelay.JsonBytes
