/-!
# Numbers of the 64-bit binary format

A number is not a number, infinite, minus zero, or a dyadic rational. A decimal numeral is read as
the nearest such number; of two equally near ones the one with an even significand is taken.
-/
namespace LintRelay

inductive Binary64 where
  | nan
  | infinite (negative : Bool)
  | negativeZero
  | finite (value : Dyadic)
  deriving DecidableEq

namespace Binary64

def roundQuotient (num den : Nat) : Nat :=
  let q := num / den
  let r := num % den
  if 2 * r < den then q
  else if den < 2 * r then q + 1
  else if q % 2 = 0 then q else q + 1

/-- `significand · 2 ^ scale` is the nearest value to `num / den`, for `num, den > 0`. -/
def nearest (num den : Nat) : Nat × Int :=
  let b : Int := (Nat.log2 num : Int) - (Nat.log2 den : Int)
  let reachesB := den * Nat.pow 2 b.toNat ≤ num * Nat.pow 2 (-b).toNat
  let binade := if reachesB then b else b - 1
  let scale := max (binade - 52) (-1074)
  (roundQuotient (num * Nat.pow 2 (-scale).toNat) (den * Nat.pow 2 scale.toNat), scale)

/-- The greatest finite number is `(2 ^ 53 - 1) · 2 ^ 971`. -/
def ofScaled (negative : Bool) (significand : Nat) (scale : Int) : Binary64 :=
  if significand = 0 then if negative then negativeZero else finite Dyadic.zero
  else if 971 < scale ∨ (scale = 971 ∧ Nat.pow 2 53 ≤ significand) then infinite negative
  else finite (Dyadic.ofIntWithPrec (if negative then -significand else significand) (-scale))

/-- The number nearest to `± digits · 10 ^ exponent`. Far out of range no power is formed. -/
def ofDecimal (negative : Bool) (digits : Nat) (exponent : Int) : Binary64 :=
  if digits = 0 then ofScaled negative 0 0
  else
    let magnitude := (Nat.log2 digits : Int) * 3 / 10 + exponent
    if 400 < magnitude then infinite negative
    else if magnitude + Nat.log2 digits < -400 then ofScaled negative 0 0
    else
      let (significand, scale) :=
        nearest (digits * Nat.pow 10 exponent.toNat) (Nat.pow 10 (-exponent).toNat)
      ofScaled negative significand scale

def isZero : Binary64 → Bool
  | negativeZero => true
  | finite v => v == Dyadic.zero
  | _ => false

def wholePart : Dyadic → Int
  | .zero => 0
  | .ofOdd n k _ => if 0 ≤ k then n.tdiv (Int.pow 2 k.toNat) else n * Int.pow 2 (-k).toNat

end Binary64

end LintRelay
