import LintRelay.Binary64

/-!
# Shortest decimal texts

A finite number is written with the fewest significant digits that read back as the same number;
among equally short ones the nearest to the number is taken, and a tie goes to the even digit.
The layout is positional while the leading digit stands between `10 ^ -4` and `10 ^ 15`.
-/
namespace LintRelay.ShortestDecimal

/-- `significand · 2 ^ scale`, the significand below `2 ^ 53` and the scale at least `-1074`. -/
structure Scaled where
  significand : Nat
  scale : Int
  deriving DecidableEq, Repr

/-- The two numbers beside `x` are as far from it as its last place, except that the one below a
power of two is only half as far. -/
def Scaled.narrowBelow (x : Scaled) : Bool := x.significand = Nat.pow 2 52 ∧ -1074 < x.scale

/-- The positive number `n · 2 ^ (-k)` in its place among the 64-bit numbers. -/
def Scaled.ofOdd (n : Nat) (k : Int) : Scaled :=
  let scale := max ((Nat.log2 n : Int) - k - 52) (-1074)
  ⟨n * Nat.pow 2 (-k - scale).toNat, scale⟩

/-- Compare `digits · 10 ^ exponent` with `n · 2 ^ scale`. -/
def compareScaled (digits : Nat) (exponent : Int) (n : Nat) (scale : Int) : Ordering :=
  compare (digits * Nat.pow 10 exponent.toNat * Nat.pow 2 (-scale).toNat)
    (n * Nat.pow 2 scale.toNat * Nat.pow 10 (-exponent).toNat)

/-- The decimal lies among the reals that are read as `x`, the ends if the significand is even. -/
def Scaled.readsBack (x : Scaled) (digits : Nat) (exponent : Int) : Bool :=
  let low := if x.narrowBelow then 4 * x.significand - 1 else 4 * x.significand - 2
  let high := 4 * x.significand + 2
  let even := x.significand % 2 = 0
  let below := compareScaled digits exponent low (x.scale - 2)
  let above := compareScaled digits exponent high (x.scale - 2)
  (below == .gt || (even && below == .eq)) && (above == .lt || (even && above == .eq))

/-- The least `k` with `x < 10 ^ k`, found within a few steps of an estimate. -/
def Scaled.decimalPoint (x : Scaled) : Int :=
  let bits : Int := (Nat.log2 x.significand : Int) + x.scale
  let start := bits * 30103 / 100000 - 1
  let rec climb : Nat → Int → Int
    | 0, k => k
    | steps + 1, k =>
      if compareScaled 1 k x.significand x.scale == .gt then k else climb steps (k + 1)
  climb 5 start

/-- The grid point of spacing `10 ^ exponent` below or at `x`. -/
def Scaled.floorOn (x : Scaled) (exponent : Int) : Nat :=
  (x.significand * Nat.pow 2 x.scale.toNat * Nat.pow 10 (-exponent).toNat) /
    (Nat.pow 10 exponent.toNat * Nat.pow 2 (-x.scale).toNat)

/-- Of two neighbours on the grid, both of which read back, the nearer one. -/
def Scaled.nearer (x : Scaled) (low : Nat) (exponent : Int) : Nat :=
  match compareScaled (2 * low + 1) exponent (2 * x.significand) x.scale with
  | .gt => low
  | .lt => low + 1
  | .eq => if low % 2 = 0 then low else low + 1

def Scaled.onGrid (x : Scaled) (exponent : Int) : Option Nat :=
  let low := x.floorOn exponent
  match x.readsBack low exponent, x.readsBack (low + 1) exponent with
  | true, true => some (x.nearer low exponent)
  | true, false => some low
  | false, true => some (low + 1)
  | false, false => none

/-- Try one, two, … digits; with seventeen some decimal always reads back. -/
def Scaled.search (x : Scaled) (point : Int) : Nat → Nat → Nat × Int
  | 0, count => (x.floorOn (point - count), point - count)
  | more + 1, count =>
    match x.onGrid (point - count) with
    | some digits => (digits, point - count)
    | none => x.search point more (count + 1)

def Scaled.shortest (x : Scaled) : Nat × Int := x.search x.decimalPoint 17 1

def trimmed (digits : List Char) : List Char := (digits.reverse.dropWhile (· = '0')).reverse

def zeros (n : Nat) : List Char := List.replicate n '0'

def exponentText (e : Int) : List Char :=
  let digits := Nat.toDigits 10 e.natAbs
  (if e < 0 then '-' else '+') :: (if digits.length < 2 then '0' :: digits else digits)

/-- Lay out the digits, the first of which stands for units of `10 ^ (point - 1)`. -/
def layout (digits : List Char) (point : Int) : List Char :=
  if -4 < point ∧ point ≤ 16 then
    if point ≤ 0 then '0' :: '.' :: zeros (-point).toNat ++ digits
    else if (digits.length : Int) ≤ point then
      digits ++ zeros (point - digits.length).toNat ++ ['.', '0']
    else digits.take point.toNat ++ '.' :: digits.drop point.toNat
  else
    match digits with
    | [] => []
    | d :: rest =>
      d :: (if rest.isEmpty then [] else '.' :: rest) ++ 'e' :: exponentText (point - 1)

def positive (n : Nat) (k : Int) : List Char :=
  let (digits, exponent) := (Scaled.ofOdd n k).shortest
  let text := Nat.toDigits 10 digits
  layout (trimmed text) (text.length + exponent)

structure Names where
  nan : String
  infinity : String
  minusInfinity : String

def render (names : Names) : Binary64 → String
  | .nan => names.nan
  | .infinite negative => if negative then names.minusInfinity else names.infinity
  | .negativeZero => "-0.0"
  | .finite .zero => "0.0"
  | .finite (.ofOdd n k _) =>
    String.ofList (if n < 0 then '-' :: positive n.natAbs k else positive n.natAbs k)

end LintRelay.ShortestDecimal
