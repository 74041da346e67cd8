import BrowserPlan.Pattern.Token
import BrowserPlan.Text.CharacterName

/-!
# Escapes

What a backslash and the character after it stand for: a character given by a letter, by its code
in hexadecimal or octal digits or by its name, a class of characters, an anchor, or what an
earlier group matched. Letters without a meaning are refused; any other character stands for
itself.
-/
namespace BrowserPlan.Pattern

/-- Whether a character is an octal digit. -/
def isOctal (c : Char) : Bool := '0' ≤ c && c ≤ '7'

/-- The value of a run of octal digits. -/
def octalValue (cs : List Char) : Nat := cs.foldl (fun acc c => 8 * acc + (c.toNat - 0x30)) 0

/-- Whether a character is an ASCII letter. -/
def isAsciiLetter (c : Char) : Bool := ('a' ≤ c && c ≤ 'z') || ('A' ≤ c && c ≤ 'Z')

/-- The control character a letter stands for. -/
def controlLetter? (c : Char) : Option Nat :=
  if c == 'a' then some 7
  else if c == 'b' then some 8
  else if c == 'f' then some 12
  else if c == 'n' then some 10
  else if c == 'r' then some 13
  else if c == 't' then some 9
  else if c == 'v' then some 11
  else if c == '\\' then some 0x5c
  else none

/-- The class a letter stands for: a small letter for the class, its capital for all else. -/
def classLetter? (c : Char) : Option SetItem :=
  if c == 'd' then some (.«class» .digit false)
  else if c == 'D' then some (.«class» .digit true)
  else if c == 's' then some (.«class» .space false)
  else if c == 'S' then some (.«class» .space true)
  else if c == 'w' then some (.«class» .word false)
  else if c == 'W' then some (.«class» .word true)
  else none

/-- The anchor a letter stands for. -/
def anchorLetter? (c : Char) : Option Anchor :=
  if c == 'A' then some .textStart
  else if c == 'Z' then some .textEnd
  else if c == 'b' then some .boundary
  else if c == 'B' then some .inside
  else none

namespace Reading

/-- How many hexadecimal digits the code of a character has after a letter. -/
def codeDigits? (c : Char) : Option Nat :=
  if c == 'x' then some 2 else if c == 'u' then some 4 else if c == 'U' then some 8 else none

/-- The largest number that is looked at as the code of a character. -/
def maxCode : Nat := 0x7fffffff

/-- The fault of an escape that stands for nothing; `escape` is what was read of it. -/
def badEscape {α : Type} (escape : List Char) : Reading α :=
  fail ("bad escape " ++ String.ofList escape) escape.length

/-- A character given by `digits` hexadecimal digits. -/
def hexCode (c : Char) (digits : Nat) : Reading Nat := do
  let read ← takeWhile (fun ch => (Text.hexValue? ch).isSome) digits
  let escape := ['\\', c] ++ read
  if read.length != digits then fail ("incomplete escape " ++ String.ofList escape) escape.length
  else
    let n := (Text.hexNumber? read).getD 0
    if n > maxCode then throw .hugeCode
    else if n > 0x10ffff then badEscape escape
    else return n

/-- A character given by its name between braces. -/
def namedCode : Reading Nat := do
  if !(← accept '{') then fail "missing \x7b" 0
  else
    let name ← nameUntil '}' "character name"
    match Text.codeNamed? (String.ofList name) with
    | some n => return n
    | none => fail ("undefined character name " ++ Text.quoted (String.ofList name)) (name.length + 4)

/-- Refuses a code beyond three octal digits' range. -/
def checkOctal (escape : List Char) (n : Nat) : Reading Nat :=
  if n > 0xff then
    fail ("octal escape value " ++ String.ofList escape ++ " outside of range 0-0o377") escape.length
  else return n

/-- The escape `\c` inside a character set. -/
def setEscape (c : Char) : Reading SetItem := do
  match controlLetter? c, classLetter? c, codeDigits? c with
  | some n, _, _ => return .char n
  | none, some item, _ => return item
  | none, none, some digits => return .char (← hexCode c digits)
  | none, none, none =>
    if c == 'N' then return .char (← namedCode)
    else if isOctal c then
      let escape := ['\\', c] ++ (← takeWhile isOctal 2)
      return .char (← checkOctal escape (octalValue (escape.drop 1)))
    else if Text.isDigitChar c || isAsciiLetter c then badEscape ['\\', c]
    else return .char c.toNat

/-- A reference to a group, or a character given by three octal digits: which of the two shows
only after the digits are read. -/
def digitEscape (c : Char) : Reading Node := do
  let second ← takeWhile Text.isDigitChar 1
  let third ← match second with
    | [d] => if isOctal c && isOctal d then takeWhile isOctal 1 else pure []
    | _ => pure []
  let escape := ['\\', c] ++ second ++ third
  if third.length == 1 then return .char (← checkOctal escape (octalValue (escape.drop 1)))
  else
    let group := Text.digitsValue (c :: second)
    if group < (← groupCount) then
      if (← closedWidth? group).isNone then fail "cannot refer to an open group" escape.length
      else
        checkBehind group
        return .backReference group
    else fail s!"invalid group reference {group}" (escape.length - 1)

/-- The escape `\c` outside of character sets. -/
def nodeEscape (c : Char) : Reading Node := do
  match anchorLetter? c, classLetter? c, controlLetter? c, codeDigits? c with
  | some place, _, _, _ => return .anchor place
  | none, some item, _, _ => return .set false [item]
  | none, none, some n, _ => return .char n
  | none, none, none, some digits => return .char (← hexCode c digits)
  | none, none, none, none =>
    if c == 'N' then return .char (← namedCode)
    else if c == '0' then return .char (octalValue (c :: (← takeWhile isOctal 2)))
    else if Text.isDigitChar c then digitEscape c
    else if isAsciiLetter c then badEscape ['\\', c]
    else return .char c.toNat

end Reading
end BrowserPlan.Pattern
