import BrowserPlan.Text.Hex

/-!
# Decimals read as floats

A decimal literal is rounded to the nearest float. Literals far outside the range of floats are
settled by their size alone, so that no power of ten beyond some hundreds is ever computed.
-/
namespace BrowserPlan.Decimal

/-- Positive infinity. -/
def infinity : Float := Float.ofBits 0x7ff0000000000000

/-- The value that is no number. -/
def notANumber : Float := Float.ofBits 0x7ff8000000000000

/-- `coefficient · 10 ^ exponent`, rounded to the nearest float. -/
def nearest (coefficient : Nat) (exponent : Int) : Float :=
  let size := (Nat.toDigits 10 coefficient).length + exponent
  if coefficient = 0 then 0.0
  else if size > 400 then infinity
  else if size < -400 then 0.0
  else Float.ofScientific coefficient (exponent < 0) exponent.natAbs

/-- The float of a literal given by its parts: sign, digits before and after the point, and the
exponent. -/
def ofParts (negative : Bool) (whole fraction : List Char) (exponent : Int) : Float :=
  let x := nearest (Text.digitsValue (whole ++ fraction)) (exponent - fraction.length)
  if negative then -x else x

/-- The float nearest to a whole number, none when it is out of range. -/
def ofInt? (n : Int) : Option Float :=
  let x := nearest n.natAbs 0
  if x == infinity then none else some (if n < 0 then -x else x)

end BrowserPlan.Decimal
