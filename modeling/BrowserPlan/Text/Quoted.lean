import BrowserPlan.Text.Hex
import BrowserPlan.Text.Printable

/-!
# Quoted text in messages

A text is shown between single quotes, or between double quotes when it holds single quotes and
no double ones. Tab, line feed and carriage return, the backslash and the quote in use are written
with a backslash; every character that shows nothing of its own is written by its code, in two,
four or eight hexadecimal digits.
-/
namespace BrowserPlan.Text

/-- The code of a character after a backslash, in the shortest of the three widths. -/
def codeEscape (n : Nat) : List Char :=
  if n < 0x100 then '\\' :: 'x' :: hexPadded 2 n
  else if n < 0x10000 then '\\' :: 'u' :: hexPadded 4 n
  else '\\' :: 'U' :: hexPadded 8 n

/-- One character between the quotes `q`. -/
def quotedChar (q c : Char) : List Char :=
  if c == q || c == '\\' then ['\\', c]
  else if c == '\t' then ['\\', 't']
  else if c == '\n' then ['\\', 'n']
  else if c == '\r' then ['\\', 'r']
  else if isPrintable c then [c]
  else codeEscape c.toNat

/-- The quote a text is shown in. -/
def quoteFor (cs : List Char) : Char :=
  if cs.contains '\'' && !cs.contains '"' then '"' else '\''

/-- A text as it is shown in messages. -/
def quoted (s : String) : String :=
  let q := quoteFor s.toList
  String.ofList (q :: (s.toList.flatMap (quotedChar q) ++ [q]))

end BrowserPlan.Text
