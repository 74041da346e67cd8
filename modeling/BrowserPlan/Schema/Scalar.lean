import BrowserPlan.Schema.Checked
import BrowserPlan.Decimal.Reader
import BrowserPlan.Decimal.Binary
import BrowserPlan.Text.Blank
import BrowserPlan.Text.Hex

/-!
# Scalars of a document

Texts, truth values and numbers, read leniently: a number may be written as a text, a truth value
as a word or as 0 or 1, and a whole float counts as an integer.
-/
namespace BrowserPlan.Schema

/-! ## Texts -/

/-- Reads a text. -/
def text : Reader String
  | .str s => .ok s
  | .unpaired _ => .fail .notUnicode
  | _ => .fail .notText

/-- Reads a text of one character or more. -/
def someText : Reader String := fun v =>
  (text v).andThen fun s => if s == "" then .fail .tooShort else .ok s

/-- Reads one of a few words. -/
def oneOf (words : List String) : Reader String
  | .str s => if words.contains s then .ok s else .fail (.notOneOf words)
  | _ => .fail (.notOneOf words)

/-- Reads null as nothing. -/
def nullable {α : Type} (read : Reader α) : Reader (Option α)
  | .null => .ok none
  | v => some <$> read v

/-! ## Truth values -/

/-- The words for false. -/
def falseWords : List String := ["0", "off", "f", "false", "n", "no"]

/-- The words for true. -/
def trueWords : List String := ["1", "on", "t", "true", "y", "yes"]

/-- The truth value a whole number stands for. -/
def boolOfInt (n : Int) : Checked Bool :=
  if n == 0 then .ok false else if n == 1 then .ok true else .fail .noBoolWord

/-- The first whole number that does not fit into 64 bits. -/
def wordLimit : Int := (Nat.pow 2 63 : Nat)

/-- Whether a whole number fits into 64 bits. -/
def fitsWord (n : Int) : Bool := -wordLimit ≤ n && n < wordLimit

/-- The whole number a float is equal to, as long as it fits into 64 bits. -/
def intOfFloat (x : Float) : Checked Int :=
  let b := Decimal.Binary.ofFloat x
  match b.truncate? with
  | none => .fail .notFinite
  | some n =>
    if !b.isWhole then .fail .fractional
    else if -wordLimit < n ∧ n < wordLimit then .ok n
    else .fail .intTooLarge

/-- Reads a truth value. -/
def bool : Reader Bool
  | .bool b => .ok b
  | .unpaired _ => .fail .notUnicode
  | .str s =>
    let word := s.toLower
    if falseWords.contains word then .ok false
    else if trueWords.contains word then .ok true
    else .fail .noBoolWord
  | .int n => if fitsWord n then boolOfInt n else .fail .notBool
  | .float x =>
    match (intOfFloat x).value? with
    | some n => boolOfInt n
    | none => .fail .notBool
  | _ => .fail .notBool

/-! ## Numbers written as texts -/

/-- A text without its underscores, none when it has none to drop or one is out of place: at an end
or beside another. -/
def dropUnderscores? (cs : List Char) : Option (List Char) :=
  let misplaced := cs.head? == some '_' || cs.getLast? == some '_' ||
    (cs.zip cs.tail).any fun p => p == ('_', '_')
  if misplaced || !cs.contains '_' then none else some (cs.filter (· != '_'))

/-- The whole number that plain digits with an optional minus denote: no leading zeros. -/
def plainInt? (cs : List Char) : Option Int :=
  let (negative, digits) := match cs with
    | '-' :: rest => (true, rest)
    | _ => (false, cs)
  let plain := digits != [] && digits.all Text.isDigitChar &&
    (digits.length == 1 || digits.head? != some '0')
  if plain then
    some (if negative then -(Text.digitsValue digits : Int) else Text.digitsValue digits)
  else none

/-- The most characters of a number's text. -/
def maxIntLength : Nat := 4300

/-- Digits without leading zeros and the underscores among those; one digit stays. Digits must come
first, but for the minus of a text without leading zeros. -/
def dropLeadingZeros? : List Char → Option (List Char)
  | '0' :: rest =>
    match rest.dropWhile fun c => c == '0' || c == '_' with
    | [] => some [rest.getLast?.getD '0']
    | '.' :: more => some ('0' :: '.' :: more)
    | c :: more => if Text.isDigitChar c then some (c :: more) else none
  | c :: rest => if Text.isDigitChar c || c == '-' then some (c :: rest) else none
  | [] => none

/-- A text without a fraction of zeros. -/
def dropZeroFraction (cs : List Char) : List Char :=
  match cs.span (· != '.') with
  | (whole, '.' :: zeros) => if zeros.all (· == '0') then whole else cs
  | _ => cs

/-- A written whole number brought into plain form: blanks at its ends, a plus, leading zeros, a
fraction of zeros and single underscores between digits are dropped. -/
def cleanInt? (cs : List Char) : Option (List Char) :=
  let trimmed := Text.trim Text.isWhiteSpace cs
  let unsigned := match trimmed with
    | '+' :: c :: rest => if Text.isDigitChar c then c :: rest else trimmed
    | _ => trimmed
  (dropLeadingZeros? unsigned).map fun digits =>
    let whole := dropZeroFraction digits
    (dropUnderscores? whole).getD whole

/-- The whole number that a text denotes. -/
def intOfText (s : String) : Checked Int :=
  if s.length > maxIntLength then .fail .intTooLarge
  else
    match (cleanInt? s.toList).bind plainInt? with
    | some n => .ok n
    | none => .fail .noIntText

/-- Reads a whole number. -/
def int : Reader Int
  | .bool b => .ok (if b then 1 else 0)
  | .int n => .ok n
  | .float x => intOfFloat x
  | .str s => intOfText s
  | .unpaired _ => .fail .notUnicode
  | _ => .fail .notInt

/-- The exponent at the end of a decimal literal, 0 where there is none. -/
def exponent? : List Char → Option Int
  | [] => some 0
  | e :: rest =>
    let (negative, digits) := match rest with
      | '-' :: ds => (true, ds)
      | '+' :: ds => (false, ds)
      | ds => (false, ds)
    if (e == 'e' || e == 'E') && digits != [] && digits.all Text.isDigitChar then
      let n : Int := Text.digitsValue digits
      some (if negative then -n else n)
    else none

/-- The float that digits with an optional point and exponent denote. -/
def unsignedFloat? (negative : Bool) (cs : List Char) : Option Float :=
  let (whole, rest) := cs.span Text.isDigitChar
  let (fraction, rest) := match rest with
    | '.' :: more => more.span Text.isDigitChar
    | _ => ([], rest)
  if whole == [] && fraction == [] then none
  else (exponent? rest).map (Decimal.ofParts negative whole fraction)

/-- The float that a decimal literal denotes, or one of the words for infinity and for what is no
number. -/
def plainFloat? (cs : List Char) : Option Float :=
  let (negative, rest) := match cs with
    | '-' :: r => (true, r)
    | '+' :: r => (false, r)
    | r => (false, r)
  match String.ofList (rest.map Char.toLower) with
  | "inf" | "infinity" => some (if negative then -Decimal.infinity else Decimal.infinity)
  | "nan" => some Decimal.notANumber
  | _ => unsignedFloat? negative rest

/-- The float that a text denotes. -/
def floatOfText (s : String) : Checked Float :=
  let read (cs : List Char) := plainFloat? (Text.trim Text.isWhiteSpace cs)
  match (read s.toList).or ((dropUnderscores? s.toList).bind read) with
  | some x => .ok x
  | none => .fail .noFloatText

/-- Reads a number. -/
def float : Reader Float
  | .bool b => .ok (if b then 1.0 else 0.0)
  | .float x => .ok x
  | .int n =>
    match Decimal.ofInt? n with
    | some x => .ok x
    | none => .fail .notFloat
  | .str s => floatOfText s
  | .unpaired _ => .fail .notUnicode
  | _ => .fail .notFloat

/-! ## Bounds and containers -/

/-- Reads a whole number that is no smaller than `least`. -/
def intFrom (least : Int) : Reader Int := fun v =>
  (int v).andThen fun n => if n < least then .fail (.tooSmall least) else .ok n

/-- Reads a number that does not lie below zero. -/
def nonNegative : Reader Float := fun v =>
  (float v).andThen fun x => if x < 0.0 then .fail (.tooSmall 0) else .ok x

/-- Reads a list of values of any kind. -/
def list : Reader (List Json)
  | .arr vs => .ok vs
  | _ => .fail .notList

/-- Reads an object with members of any kind. -/
def dictionary : Reader Json.Members
  | .obj ms => .ok ms
  | _ => .fail .notDictionary

end BrowserPlan.Schema
