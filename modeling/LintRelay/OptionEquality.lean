import LintRelay.Value

/-!
# Equality of option values

Options are compared by what they say and not by how they are written: a truth value equals the
number 1 or 0, a whole number equals the same number written with a fraction, and the order of an
object's names does not count. Each value has a signature, and two values are the same when their
signatures are; a bare not-a-number alone is not even the same as itself.
-/
namespace LintRelay

inductive Atom where
  | null
  | number (x : Dyadic)
  | infinite (negative : Bool)
  | nan
  | text (s : String)
  | listOf (count : Nat)
  | objectOf (count : Nat)
  | name (s : String)
  deriving DecidableEq

namespace Value

def whole (n : Int) : Atom := .number (Dyadic.ofIntWithPrec n 0)

def numberAtom : Binary64 → Atom
  | .nan => .nan
  | .infinite negative => .infinite negative
  | .negativeZero => whole 0
  | .finite v => .number v

mutual

/-- A value written out from the outside in, with the names of every object in ascending order. -/
def signature : Value → List Atom
  | null => [.null]
  | bool b => [whole (if b then 1 else 0)]
  | int n => [whole n]
  | float x => [numberAtom x]
  | str s => [.text s]
  | list items => .listOf items.length :: itemSignature items
  | object fields =>
    .objectOf fields.length ::
      (Entries.sorted (fieldSignatures fields)).flatMap fun p => .name p.1 :: p.2

def itemSignature : List Value → List Atom
  | [] => []
  | v :: rest => signature v ++ itemSignature rest

def fieldSignatures : List (String × Value) → List (String × List Atom)
  | [] => []
  | (name, v) :: rest => (name, signature v) :: fieldSignatures rest

end

/-- Whether two option values say the same. -/
def same (a b : Value) : Bool := signature a == signature b && signature a != [Atom.nan]

theorem same_iff {a b : Value} :
    same a b = true ↔ signature a = signature b ∧ signature a ≠ [Atom.nan] := by
  simp [same]

/-- The bare not-a-number is the one exception. -/
theorem same_self {v : Value} (hv : v ≠ .float .nan) : same v v = true := by
  rw [same_iff]
  refine ⟨rfl, fun e => hv ?_⟩
  cases v with
  | float x => cases x <;> simp_all [signature, numberAtom, whole]
  | null | bool | int | str | list | object => simp [signature, whole] at e

end Value

end LintRelay
