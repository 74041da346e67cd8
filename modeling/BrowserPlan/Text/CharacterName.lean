import BrowserPlan.Text.CharacterName.Letters
import BrowserPlan.Text.CharacterName.Others
import BrowserPlan.Text.CharacterName.Pictures
import BrowserPlan.Text.CharacterName.Signs
import BrowserPlan.Text.Hex
import BrowserPlan.Text.Ranges

/-!
# Names of characters

The character that a name stands for. Most names are listed, for the scripts and signs in common
use; ideographs are named by their code points and Korean syllables by their sounds. Letter case
does not count in the names that are listed.
-/
namespace BrowserPlan.Text

namespace CharacterName

/-- A text without the beginning it must have. -/
def without? (beginning : String) (name : List Char) : Option (List Char) :=
  if beginning.toList.isPrefixOf name then some (name.drop beginning.length) else none

/-- Code points of ideographs that are named by them. -/
def ideographRanges : Ranges :=
  [(0x3400, 0x4dbf), (0x4e00, 0x9fff), (0x20000, 0x2a6df), (0x2a700, 0x2b738), (0x2b740, 0x2b81d),
   (0x2b820, 0x2cea1), (0x2ceb0, 0x2ebe0), (0x30000, 0x3134a)]

/-- The code point of an ideograph. -/
def ideograph? (name : List Char) : Option Nat := do
  let digits ← without? "CJK UNIFIED IDEOGRAPH-" name
  if (digits.length == 4 || digits.length == 5) && !digits.any (fun c => 'a' ≤ c && c ≤ 'f') then
    let code ← hexNumber? digits
    if ideographRanges.contains code then return code else none
  else none

/-- Sounds at the beginning of a syllable. -/
def initials : List String :=
  ["G", "GG", "N", "D", "DD", "R", "M", "B", "BB", "S", "SS", "", "J", "JJ", "C", "K", "T", "P", "H"]

/-- Vowels. -/
def vowels : List String :=
  ["A", "AE", "YA", "YAE", "EO", "E", "YEO", "YE", "O", "WA", "WAE", "OE", "YO", "U", "WEO", "WE",
   "WI", "YU", "EU", "YI", "I"]

/-- Sounds at the end of a syllable. -/
def finals : List String :=
  ["", "G", "GG", "GS", "N", "NJ", "NH", "D", "L", "LG", "LM", "LB", "LS", "LT", "LP", "LH", "M",
   "B", "BS", "S", "SS", "NG", "J", "C", "K", "T", "P", "H"]

/-- The longest of some sounds with which a text begins, as its place among them, and the rest. -/
def longestSound? (sounds : List String) (name : List Char) : Option (Nat × List Char) :=
  let fitting := sounds.filter fun s => s.toList.isPrefixOf name
  match fitting.foldl (fun best s =>
      match best with
      | some b => if String.length b < s.length then some s else some b
      | none => some s) (none : Option String) with
  | some s => (sounds.idxOf? s).map fun n => (n, name.drop s.length)
  | none => none

/-- The code point of a Korean syllable. -/
def syllable? (name : List Char) : Option Nat := do
  let sounds ← without? "HANGUL SYLLABLE " name
  let (i, rest) ← longestSound? initials sounds
  let (v, rest) ← longestSound? vowels rest
  let (f, rest) ← longestSound? finals rest
  if rest.isEmpty then return 0xac00 + (i * vowels.length + v) * finals.length + f else none

/-- The code point of a name that is listed. -/
def listed? (name : String) : Option Nat :=
  match (lettersRuns ++ signsRuns ++ picturesRuns).findSome? (·.code? name) with
  | some code => some code
  | none => (otherNames.find? fun n => n.1 == name).map (·.2)

end CharacterName

/-- The code point with a name. -/
def codeNamed? (name : String) : Option Nat :=
  if name.isEmpty then none
  else if "HANGUL SYLLABLE ".toList.isPrefixOf name.toList then CharacterName.syllable? name.toList
  else if "CJK UNIFIED IDEOGRAPH-".toList.isPrefixOf name.toList then
    CharacterName.ideograph? name.toList
  else CharacterName.listed? name.toUpper

end BrowserPlan.Text
