/-!
# Bytes as characters

The byte form of a text, one to four bytes a character. Decoding goes byte by byte: a lead byte says
which ranges the following bytes must lie in, and a sequence that breaks off is one fault, whatever
part of it was sound. A strict reader stops at the first fault; a lenient one puts the replacement
character there.
-/
namespace LintRelay.Utf8

inductive Reason where
  | startByte
  | continuationByte
  | endOfData
  deriving DecidableEq, Repr

/-- A sequence that denotes no character, by its lead byte and its first and last place. -/
structure Fault where
  lead : UInt8
  first : Nat
  last : Nat
  reason : Reason
  deriving DecidableEq, Repr

abbrev ByteRange := UInt8 × UInt8

def tail : ByteRange := (0x80, 0xbf)

/-- The ranges of the bytes that follow a lead byte above 127, and the bits it carries itself. -/
def follow? (b : UInt8) : Option (List ByteRange × Nat) :=
  let n := b.toNat
  if n < 0xc2 then none
  else if n < 0xe0 then some ([tail], n - 0xc0)
  else if n = 0xe0 then some ([(0xa0, 0xbf), tail], 0)
  else if n = 0xed then some ([(0x80, 0x9f), tail], 0xd)
  else if n < 0xf0 then some ([tail, tail], n - 0xe0)
  else if n = 0xf0 then some ([(0x90, 0xbf), tail, tail], 0)
  else if n < 0xf4 then some ([tail, tail, tail], n - 0xf0)
  else if n = 0xf4 then some ([(0x80, 0x8f), tail, tail], 4)
  else none

/-- Between two characters, or inside one with the ranges of the bytes still to come. -/
inductive State where
  | between
  | inside (lead : UInt8) (first : Nat) (bits : Nat) (next : ByteRange) (later : List ByteRange)

abbrev Piece := Except Fault Char

def start (pos : Nat) (b : UInt8) : List Piece × State :=
  if b.toNat < 128 then ([.ok (Char.ofNat b.toNat)], .between)
  else
    match follow? b with
    | some (next :: later, bits) => ([], .inside b pos bits next later)
    | _ => ([.error ⟨b, pos, pos, .startByte⟩], .between)

/-- One byte. A byte that breaks a sequence off starts anew. -/
def step (pos : Nat) (b : UInt8) : State → List Piece × State
  | .between => start pos b
  | .inside lead first bits next later =>
    if next.1 ≤ b ∧ b ≤ next.2 then
      let bits := bits * 64 + b.toNat % 64
      match later with
      | [] => ([.ok (Char.ofNat bits)], .between)
      | r :: rest => ([], .inside lead first bits r rest)
    else
      let (pieces, state) := start pos b
      (.error ⟨lead, first, pos - 1, .continuationByte⟩ :: pieces, state)

def pieces : State → Nat → List UInt8 → List Piece
  | .between, _, [] => []
  | .inside lead first _ _ _, pos, [] => [.error ⟨lead, first, pos - 1, .endOfData⟩]
  | state, pos, b :: rest =>
    let (out, next) := step pos b state
    out ++ pieces next (pos + 1) rest

def collect : List Piece → Except Fault (List Char)
  | [] => .ok []
  | .ok c :: rest => (collect rest).map (c :: ·)
  | .error e :: _ => .error e

def decode (bytes : List UInt8) : Except Fault (List Char) := collect (pieces .between 0 bytes)

def decodeLenient (bytes : List UInt8) : List Char :=
  (pieces .between 0 bytes).map fun
    | .ok c => c
    | .error _ => '\ufffd'

def encode (cs : List Char) : List UInt8 := cs.flatMap String.utf8EncodeChar

end LintRelay.Utf8
