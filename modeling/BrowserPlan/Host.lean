import BrowserPlan.FilePath
import BrowserPlan.Text.Hex

/-!
# Hosts in numbers

A host may be given by its number: in four decimal parts between dots, or in hexadecimal groups between
colons, of which one run of zeros may be left out (`::`). A host of a later form has its version in front.
-/
namespace BrowserPlan.Host

/-- A number below 256 with no zeros in front. -/
def isOctet (cs : List Char) : Bool :=
  cs != [] && cs.all Text.isDigitChar && cs.length ≤ 3 && (cs == ['0'] || cs.head? != some '0') &&
    Text.digitsValue cs < 256

/-- Four such numbers between dots. -/
def isDotted (cs : List Char) : Bool :=
  let parts := FilePath.splitOnChar '.' cs
  parts.length == 4 && parts.all isOctet

/-- One to four hexadecimal digits. -/
def isGroup (cs : List Char) : Bool := cs != [] && cs.length ≤ 4 && cs.all fun c => (Text.hexValue? c).isSome

/-- A text parted at the first two colons that stand together, if there are any. -/
def cutGap : List Char → Option (List Char × List Char)
  | ':' :: ':' :: rest => some ([], rest)
  | c :: rest => (cutGap rest).map fun (front, back) => (c :: front, back)
  | [] => none

/-- What stands between colons. -/
def pieces : List Char → List (List Char)
  | [] => []
  | cs => FilePath.splitOnChar ':' cs

/-- The groups between colons; a dotted number at the end stands for two. -/
def groups (cs : List Char) : List (List Char) :=
  let parts := pieces cs
  if isDotted (parts.getLast?.getD []) then parts.dropLast ++ [['0'], ['0']] else parts

/-- Eight groups, or fewer with a gap, and perhaps the name of a zone behind a percent sign. -/
def isGrouped (cs : List Char) : Bool :=
  let zoned := match cs.span (· != '%') with
    | (_, []) => true
    | (_, _ :: zone) => zone != [] && !zone.contains '%'
  let number := cs.takeWhile (· != '%')
  zoned && match cutGap number with
    | some (front, back) =>
      let found := pieces front ++ groups back
      found.length ≤ 7 && found.all isGroup
    | none =>
      let found := groups number
      found.length == 8 && found.all isGroup

/-- A version in hexadecimal digits, a dot, and something behind it. -/
def isVersioned (cs : List Char) : Bool :=
  let (version, rest) := cs.span fun c => (Text.hexValue? c).isSome
  match rest with
  | '.' :: name => version != [] && name != []
  | _ => false

example : isGrouped "2001:db8::ff00:1.2.3.4%25en0".toList = true := by decide +kernel

end BrowserPlan.Host
