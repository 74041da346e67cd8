import BrowserPlan.Json.Basic
import BrowserPlan.Decimal.Reader
import BrowserPlan.Decimal.Notation

/-!
# Numbers of a plan

Times in a plan are milliseconds, given as whole numbers or as floats; the two stay apart in what
is reported, and both are turned into whole microseconds when time passes.
-/
namespace BrowserPlan

/-- A whole number or a float. -/
inductive Number where
  | int (n : Int)
  | float (x : Float)
  deriving Inhabited

namespace Number

/-- The number as a JSON value. -/
def toJson : Number → Json
  | int n => .int n
  | float x => .float x

/-- The number a JSON value is, truth values left out. -/
def ofJson? : Json → Option Number
  | .int n => some (int n)
  | .float x => some (float x)
  | _ => none

/-- Whether a number lies below zero; what is no number does not. -/
def isNegative : Number → Bool
  | int n => n < 0
  | float x => x < 0.0

/-- Whether a number lies above zero; what is no number does not. -/
def isPositive : Number → Bool
  | int n => 0 < n
  | float x => 0.0 < x

/-- So many milliseconds in whole microseconds, none when there are infinitely many. -/
def micros? : Number → Option Int
  | int n => some (n * 1000)
  | float x => (Decimal.Binary.ofFloat x).scaled? 1000

/-- The whole number next to a number on the side of zero. -/
def truncate? : Number → Option Int
  | int n => some n
  | float x => (Decimal.Binary.ofFloat x).truncate?

/-- A number as messages show it. -/
def display : Number → String
  | int n => toString n
  | float x => Decimal.written x

end Number
end BrowserPlan
