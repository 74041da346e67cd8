import BrowserPlan.Decimal.Shortest

/-!
# Written floats

How a float is written: its shortest digits, with a point when its first digit stands between
10⁻⁴ and 10¹⁵ and with an exponent of at least two digits otherwise. A whole number keeps `.0`
when it is written with a point.
-/
namespace BrowserPlan.Decimal

/-- The exponents of the first digit that are written with a point. -/
def pointedFrom : Int := -4
/-- The first exponent above those written with a point. -/
def pointedBelow : Int := 16

/-- Digits `d₁d₂…` with the value `d₁.d₂… · 10 ^ lead`, written with a point. -/
def pointed (digits : List Char) (lead : Int) : List Char :=
  if lead < 0 then
    ['0', '.'] ++ List.replicate (lead.natAbs - 1) '0' ++ digits
  else
    let whole := lead.natAbs + 1
    let front := digits.take whole ++ List.replicate (whole - digits.length) '0'
    let back := digits.drop whole
    front ++ '.' :: (if back.isEmpty then ['0'] else back)

/-- The same digits written with an exponent. -/
def exponential (digits : List Char) (lead : Int) : List Char :=
  let front := match digits with
    | [] => ['0']
    | [d] => [d]
    | d :: rest => d :: '.' :: rest
  let e := Nat.toDigits 10 lead.natAbs
  front ++ 'e' :: (if lead < 0 then '-' else '+') :: (if e.length < 2 then '0' :: e else e)

/-- A decimal as it is written. -/
def Scaled.written (d : Scaled) : List Char :=
  if d.coefficient = 0 then ['0', '.', '0']
  else
    let digits := Nat.toDigits 10 d.coefficient
    let lead := d.exponent + (digits.length - 1 : Nat)
    if pointedFrom ≤ lead ∧ lead < pointedBelow then pointed digits lead
    else exponential digits lead

/-- The written form of a float, the values that are no numbers included. -/
def Binary.written : Binary → String
  | .nan => "nan"
  | .infinite negative => if negative then "-inf" else "inf"
  | .finite negative m q =>
    String.ofList ((if negative then ['-'] else []) ++ (shortest m q).written)

/-- The written form of a float. -/
def written (x : Float) : String := (Binary.ofFloat x).written

end BrowserPlan.Decimal
