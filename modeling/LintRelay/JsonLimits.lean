import LintRelay.Fault
import LintRelay.JsonReader

/-!
# Limits of reading

Whole numbers are read up to a number of digits, and lists and objects up to a depth, for which there is
room on the reader's stack. The reader gives up at the first token that goes beyond, unless the text has
turned out not to be JSON before.
-/
namespace LintRelay.Json

/-- The room of a reader of which nothing else is known. -/
def usualRoom : Nat := 970

def decimalLength (n : Int) : Nat := (Nat.toDigits 10 n.natAbs).length

/-- Why a token is not taken where it may stand. -/
def excessAt? (room : Nat) (frames : List Frame) : Lexeme → Option Fault
  | .scalar (.int n) =>
    if Fault.mostDigits < decimalLength n then some (.tooManyDigits (decimalLength n)) else none
  | .openList => if frames.length < room then none else some (.tooDeep .list)
  | .openObject => if frames.length < room then none else some (.tooDeep .object)
  | _ => none

def excessFrom? (room : Nat) : State → List Token → Option Fault
  | _, [] => none
  | s, t :: rest =>
    match step s t.lexeme with
    | some (.ok s') => (excessAt? room s.frames t.lexeme).or (excessFrom? room s' rest)
    | _ => none

def excessOfChars? (room : Nat) (cs : List Char) : Option Fault :=
  if cs.head? = some '\ufeff' then none else excessFrom? room ⟨.value, []⟩ (tokens 0 0 cs)

/-- What makes a reader with this much room give a text up. -/
def excess? (room : Nat) (text : String) : Option Fault := excessOfChars? room text.toList

@[simp] theorem excess?_empty (room : Nat) : excess? room "" = none := rfl

def readWithin (room : Nat) (text : String) : Except Fault (Except Error Value) :=
  match excess? room text with
  | some fault => .error fault
  | none => .ok (read text)

end LintRelay.Json
