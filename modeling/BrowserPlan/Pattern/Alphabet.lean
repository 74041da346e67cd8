import BrowserPlan.Pattern.Basic
import BrowserPlan.Text.Blank
import BrowserPlan.Text.Case
import BrowserPlan.Text.Word

/-!
# Tests of single characters

A test accepts or refuses one character. Where letters match without regard to case, the
character is brought to lower case first, and the letters of the pattern stand for their whole
family of lower-case letters; a set none of whose members has case is left alone.
-/
namespace BrowserPlan.Pattern

/-- How a character is brought to lower case before it is tested. -/
inductive Folding where
  | none
  | ascii
  | unicode
  deriving DecidableEq, Repr

/-- The folding that flags ask for. -/
def Flags.folding (f : Flags) : Folding :=
  if !f.ignoreCase then .none else if f.unicode then .unicode else .ascii

namespace Folding

/-- A character in lower case. -/
def apply : Folding → Nat → Nat
  | none, c => c
  | ascii, c => Text.lowerAscii c
  | unicode, c => Text.lowerCode c

/-- Whether a character has case. -/
def isCased : Folding → Nat → Bool
  | none, _ => false
  | ascii, c => Text.isAsciiLetter c
  | unicode, c => Text.isCased c

/-- Whether a range holds a character that has case. -/
def rangeIsCased : Folding → (first last : Nat) → Bool
  | none, _, _ => false
  | ascii, first, last => (first ≤ 0x5a && 0x41 ≤ last) || (first ≤ 0x7a && 0x61 ≤ last)
  | unicode, first, last => Text.casedRanges.any fun r => first ≤ r.2 && r.1 ≤ last

end Folding

/-- The last code point of the plane in which letters share capitals. -/
def basicPlaneLast : Nat := 0xffff

/-- Whether a character of the text belongs to a class. -/
def Class.holds (kind : Class) (unicode : Bool) (c : Nat) : Bool :=
  match kind with
  | .digit => if unicode then Text.isDecimalCode c else 0x30 ≤ c && c ≤ 0x39
  | .space =>
    if unicode then Text.blankRanges.contains c else c == 0x20 || (9 ≤ c && c ≤ 13)
  | .word =>
    if unicode then Text.isWordCode c
    else c == 0x5f || (0x30 ≤ c && c ≤ 0x39) || Text.isAsciiLetter c

/-- Whether a range holds a character whose lower-case form is in the family of `c`. -/
def rangeHolds (folding : Folding) (first last c : Nat) : Bool :=
  let inside (x : Nat) := first ≤ x && x ≤ last
  match folding with
  | .none => inside c
  | .ascii => (inside c && Text.lowerAscii c == c) || (0x61 ≤ c && c ≤ 0x7a && inside (c - 0x20))
  | .unicode => (Text.familyOf c).any fun l => (Text.codesOfLower l).any inside

/-- A test of one character. -/
structure CharTest where
  negated : Bool
  /-- How the character is folded before it is looked up. -/
  folding : Folding
  /-- How the items are understood. -/
  itemFolding : Folding
  unicode : Bool
  items : List SetItem
  deriving Repr

namespace CharTest

/-- Whether a folded character is among the items. -/
def itemHolds (t : CharTest) (c : Nat) : SetItem → Bool
  | .char code =>
    match t.itemFolding with
    | .none => c == code
    | .ascii => c == Text.lowerAscii code
    | .unicode =>
      if code > basicPlaneLast then c == code
      else (Text.familyOf (Text.lowerCode code)).contains c
  | .range first last => rangeHolds t.itemFolding first last c
  | .«class» kind negated => kind.holds t.unicode c != negated

/-- Whether a test accepts a character. -/
def accepts (t : CharTest) (c : Nat) : Bool :=
  (t.items.any (t.itemHolds (t.folding.apply c))) != t.negated

/-- The test for one character of a pattern. -/
def ofChar (flags : Flags) (negated : Bool) (code : Nat) : CharTest :=
  let folding := flags.folding
  if folding.isCased code then
    match folding with
    | .unicode =>
      let family := Text.familyOf (Text.lowerCode code)
      ⟨negated, .unicode, .none, flags.unicode, family.map .char⟩
    | other => ⟨negated, other, other, flags.unicode, [.char code]⟩
  else ⟨negated, .none, .none, flags.unicode, [.char code]⟩

/-- Whether one of the items has case, or lies where every set is folded. -/
def itemIsCased (folding : Folding) : SetItem → Bool
  | .char code => folding.isCased code || (folding == .unicode && code > basicPlaneLast)
  | .range first last =>
    folding.rangeIsCased first last || (folding == .unicode && last > basicPlaneLast)
  | .«class» .. => false

/-- The test for a set of characters. -/
def ofSet (flags : Flags) (negated : Bool) (items : List SetItem) : CharTest :=
  let folding := flags.folding
  let cased := items.any (itemIsCased folding)
  ⟨negated, if cased then folding else .none, folding, flags.unicode, items⟩

/-- The test for the dot. -/
def ofDot (flags : Flags) : CharTest :=
  if flags.dotAll then ⟨true, .none, .none, flags.unicode, []⟩
  else ⟨true, .none, .none, flags.unicode, [.char 0x0a]⟩

end CharTest
end BrowserPlan.Pattern
