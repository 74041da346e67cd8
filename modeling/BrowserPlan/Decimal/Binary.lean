/-!
# Binary fractions

A 64-bit float taken apart: its sign and, where it is finite, the whole numbers `m` and `q` with
value `m · 2 ^ q`. Everything exact about floats in this library is computed on these.
-/
namespace BrowserPlan.Decimal

/-- What the bits of a float stand for. -/
inductive Binary where
  | nan
  | infinite (negative : Bool)
  /-- The value `± mantissa · 2 ^ exponent`. -/
  | finite (negative : Bool) (mantissa : Nat) (exponent : Int)
  deriving Repr, DecidableEq

namespace Binary

/-- The value of 64 bits: one of sign, eleven of exponent, 52 of mantissa. -/
def ofBits (bits : Nat) : Binary :=
  let negative := bits / Nat.pow 2 63 % 2 == 1
  let field : Nat := bits / Nat.pow 2 52 % Nat.pow 2 11
  let fraction := bits % Nat.pow 2 52
  if field == 2047 then
    if fraction == 0 then .infinite negative else .nan
  else if field == 0 then .finite negative fraction (-1074)
  else .finite negative (Nat.pow 2 52 + fraction) (field - 1075)

/-- A float taken apart. -/
def ofFloat (x : Float) : Binary := ofBits x.toBits.toNat

/-- Whether the value is a whole number. -/
def isWhole : Binary → Bool
  | .finite _ m q => q ≥ 0 || m % Nat.pow 2 q.natAbs == 0
  | _ => false

/-- The whole number next to the value on the side of zero. -/
def truncate? : Binary → Option Int
  | .finite negative m q =>
    let n : Nat := if q ≥ 0 then m * Nat.pow 2 q.natAbs else m / Nat.pow 2 q.natAbs
    some (if negative then -(n : Int) else n)
  | _ => none

/-- `value · scale`, rounded to the nearest whole number, a half going to the even neighbour. -/
def scaled? (scale : Nat) : Binary → Option Int
  | .finite negative m q =>
    let num := if q ≥ 0 then m * Nat.pow 2 q.natAbs * scale else m * scale
    let den := if q ≥ 0 then 1 else Nat.pow 2 q.natAbs
    let low := num / den
    let twice := 2 * (num % den)
    let n := if twice < den || (twice == den && low % 2 == 0) then low else low + 1
    some (if negative then -(n : Int) else n)
  | _ => none

end Binary
end BrowserPlan.Decimal
