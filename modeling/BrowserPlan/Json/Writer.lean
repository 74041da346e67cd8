import BrowserPlan.Json.Basic
import BrowserPlan.Decimal.Notation
import BrowserPlan.Text.Hex

/-!
# Writing JSON text

Values are written over several lines: each item and member on a line of its own, two blanks
deeper than what holds it, and empty arrays and objects as a pair of brackets. Text is written as
it is; only the quote, the backslash and control characters are escaped.
-/
namespace BrowserPlan.Json

/-- One character inside a written text. -/
def escapeChar (c : Char) : List Char :=
  if c == '"' || c == '\\' then ['\\', c]
  else if c == '\n' then ['\\', 'n']
  else if c == '\r' then ['\\', 'r']
  else if c == '\t' then ['\\', 't']
  else if c == '\x08' then ['\\', 'b']
  else if c == '\x0c' then ['\\', 'f']
  else if c.toNat < 0x20 then '\\' :: 'u' :: Text.hexPadded 4 c.toNat
  else [c]

/-- A text between quotes. -/
def writeText (s : String) : List Char := '"' :: (s.toList.flatMap escapeChar ++ ['"'])

/-- A whole number in decimal digits. -/
def writeInt (n : Int) : List Char :=
  if n < 0 then '-' :: Nat.toDigits 10 n.natAbs else Nat.toDigits 10 n.natAbs

/-- A float; the values that are no numbers are written as words. -/
def writeFloat (x : Float) : List Char :=
  match Decimal.Binary.ofFloat x with
  | .nan => "NaN".toList
  | .infinite negative => (if negative then "-Infinity" else "Infinity").toList
  | b => b.written.toList

/-- The start of a line `depth` levels deep. -/
def lineStart (depth : Nat) : List Char := '\n' :: List.replicate (2 * depth) ' '

mutual

/-- A value written `depth` levels deep. -/
def write (depth : Nat) : Json → List Char
  | null => "null".toList
  | bool b => (if b then "true" else "false").toList
  | int n => writeInt n
  | float x => writeFloat x
  | str s | unpaired s => writeText s
  | arr [] => "[]".toList
  | arr (v :: vs) =>
    '[' :: (lineStart (depth + 1) ++ write (depth + 1) v ++ writeItems (depth + 1) vs ++
      lineStart depth ++ [']'])
  | obj [] => ['{', '}']
  | obj ((k, v) :: ms) =>
    '{' :: (lineStart (depth + 1) ++ writeText k ++ [':', ' '] ++ write (depth + 1) v ++
      writeMembers (depth + 1) ms ++ lineStart depth ++ ['}'])

/-- The items after the first, each with the comma before it. -/
def writeItems (depth : Nat) : List Json → List Char
  | [] => []
  | v :: vs => ',' :: (lineStart depth ++ write depth v ++ writeItems depth vs)

/-- The members after the first, each with the comma before it. -/
def writeMembers (depth : Nat) : List (String × Json) → List Char
  | [] => []
  | (k, v) :: ms =>
    ',' :: (lineStart depth ++ writeText k ++ [':', ' '] ++ write depth v ++ writeMembers depth ms)

end

/-- The text of a value. -/
def render (v : Json) : String := String.ofList (write 0 v)

end BrowserPlan.Json
