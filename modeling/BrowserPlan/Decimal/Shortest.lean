import BrowserPlan.Decimal.Binary

/-!
# The fewest digits that read back

Among the decimals that round to a given float, `shortest` takes one with the fewest digits, and
among those the nearest to the float, the even one on a tie. The float `m · 2 ^ q` and the interval
of reals that round to it are compared with decimal grids in exact arithmetic: if any point of a
grid lies in the interval, then so does one of the two neighbours of the float on that grid.
-/
namespace BrowserPlan.Decimal

/-- The decimal `coefficient · 10 ^ exponent`. -/
structure Scaled where
  coefficient : Nat
  exponent : Int
  deriving Repr, DecidableEq

namespace Scaled

/-- The same value with no zero at the end of the coefficient. -/
def trimmed (fuel : Nat) (d : Scaled) : Scaled :=
  match fuel with
  | 0 => d
  | fuel + 1 =>
    if d.coefficient ≠ 0 ∧ d.coefficient % 10 = 0 then
      trimmed fuel ⟨d.coefficient / 10, d.exponent + 1⟩
    else d

end Scaled

/-- The reals that round to the float `m · 2 ^ q`, in quarters of its last place: the float
itself is `4 m`, and a neighbour below a power of two is only half as far away. -/
structure Rounding where
  low : Nat
  middle : Nat
  high : Nat
  /-- Whether the ends round to the float too: a half goes to the even neighbour. -/
  closed : Bool

/-- The interval of `m · 2 ^ q`. -/
def Rounding.around (m : Nat) (q : Int) : Rounding :=
  { low := if m == Nat.pow 2 52 && q > -1074 then 4 * m - 1 else 4 * m - 2
    middle := 4 * m
    high := 4 * m + 2
    closed := m % 2 == 0 }

/-- A number of quarters of the last place as a fraction: numerator and denominator of
`n · 2 ^ (q - 2)`. -/
def quarters (q : Int) (n : Nat) : Nat × Nat :=
  if q ≥ 2 then (n * Nat.pow 2 (q - 2).natAbs, 1) else (n, Nat.pow 2 (2 - q).natAbs)

/-- The least `j ≥ 1` with `num · 10 ^ j ≥ den`, looked for in `fuel` steps. -/
def scaleUp (fuel num den j : Nat) : Nat :=
  match fuel with
  | 0 => j
  | fuel + 1 => if num * 10 ≥ den then j else scaleUp fuel (num * 10) den (j + 1)

/-- The exponent of the first decimal digit of the positive fraction `num / den`. -/
def leadingExponent (num den : Nat) : Int :=
  if num ≥ den then ((Nat.toDigits 10 (num / den)).length : Int) - 1
  else -(scaleUp 400 num den 1 : Int)

/-- `n · 10 ^ k · den` and `num`, brought to whole numbers by the same factor. -/
def onGrid (num den n : Nat) (k : Int) : Nat × Nat :=
  if k ≥ 0 then (n * Nat.pow 10 k.natAbs * den, num) else (n * den, num * Nat.pow 10 k.natAbs)

/-- Whether the grid point `n · 10 ^ k` lies in the interval. -/
def Rounding.holds (r : Rounding) (q : Int) (n : Nat) (k : Int) : Bool :=
  let (lowNum, den) := quarters q r.low
  let (highNum, _) := quarters q r.high
  let (x, low) := onGrid lowNum den n k
  let (y, high) := onGrid highNum den n k
  if r.closed then low ≤ x && y ≤ high else low < x && y < high

/-- The first grid, from one digit to seventeen, with a point in the interval; of two points the
nearer, and the even one of two that are equally near. -/
def shortestFrom (r : Rounding) (q : Int) (lead : Int) (digits fuel : Nat) : Scaled :=
  let k := lead - (digits - 1 : Nat)
  let (num, den) := quarters q r.middle
  let below := if k ≥ 0 then num / (den * Nat.pow 10 k.natAbs) else num * Nat.pow 10 k.natAbs / den
  let (x, v) := onGrid num den below k
  let (y, w) := onGrid num den (below + 1) k
  let nearerBelow := v - x < y - w || (v - x == y - w && below % 2 == 0)
  match r.holds q below k, r.holds q (below + 1) k with
  | true, true => ⟨if nearerBelow then below else below + 1, k⟩
  | true, false => ⟨below, k⟩
  | false, true => ⟨below + 1, k⟩
  | false, false =>
    match fuel with
    | 0 => ⟨if nearerBelow then below else below + 1, k⟩
    | fuel + 1 => shortestFrom r q lead (digits + 1) fuel

/-- The shortest decimal that rounds to `m · 2 ^ q`, without zeros at its end. -/
def shortest (m : Nat) (q : Int) : Scaled :=
  if m = 0 then ⟨0, 0⟩
  else
    let (num, den) := quarters q (4 * m)
    (shortestFrom (.around m q) q (leadingExponent num den) 1 16).trimmed 400

end BrowserPlan.Decimal
