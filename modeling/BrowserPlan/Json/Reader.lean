import BrowserPlan.Json.Basic
import BrowserPlan.Decimal.Reader

/-!
# Reading JSON text

One value, blanks around it, and nothing else. Besides JSON proper the words `NaN`, `Infinity`
and `-Infinity` are read as floats. A member given twice takes its last value at its first place.
Every fault names the character at which reading stopped.
-/
namespace BrowserPlan.Json

/-- Why a text is not a JSON value. -/
inductive ReadCause where
  | byteOrderMark
  | expectingValue
  | expectingKey
  | expectingColon
  | expectingComma
  | extraData
  | unterminatedText
  | controlCharacter
  | badEscape
  | badCodeEscape
  /-- A whole number with more digits than are ever read. -/
  | tooManyDigits (count : Nat)
  deriving Repr, DecidableEq

/-- A fault and the offset at which it was found. -/
structure ReadFault where
  cause : ReadCause
  position : Nat
  deriving Repr, DecidableEq

/-- The place in a text that reading has come to: the offset and what follows it. -/
structure Cursor where
  position : Nat
  rest : List Char

namespace Cursor

/-- Past the first `n` characters. -/
def skip (c : Cursor) (n : Nat) : Cursor := ⟨c.position + n, c.rest.drop n⟩

/-- Past the leading characters that satisfy `p`. -/
def skipWhile (c : Cursor) (p : Char → Bool) : Cursor :=
  let front := c.rest.takeWhile p
  ⟨c.position + front.length, c.rest.dropWhile p⟩

/-- Past the blanks that may stand between parts of a value. -/
def skipBlanks (c : Cursor) : Cursor :=
  c.skipWhile fun ch => ch == ' ' || ch == '\t' || ch == '\n' || ch == '\r'

/-- The fault `cause` at this place. -/
def fail {α : Type} (c : Cursor) (cause : ReadCause) : Except ReadFault α :=
  .error ⟨cause, c.position⟩

end Cursor

/-! ## Texts -/

/-- The first half of a surrogate pair. -/
def isHighHalf (n : Nat) : Bool := 0xd800 ≤ n && n < 0xdc00
/-- The second half of a surrogate pair. -/
def isLowHalf (n : Nat) : Bool := 0xdc00 ≤ n && n < 0xe000

/-- Halves that stand side by side become the character they encode. -/
def joinHalves : List Nat → List Nat
  | a :: b :: rest =>
    if isHighHalf a && isLowHalf b then
      (0x10000 + (a - 0xd800) * 0x400 + (b - 0xdc00)) :: joinHalves rest
    else a :: joinHalves (b :: rest)
  | short => short

/-- The text of a list of code points. -/
def ofCodes (codes : List Nat) : Json :=
  let joined := joinHalves codes
  if joined.any fun n => isHighHalf n || isLowHalf n then
    .unpaired (String.ofList (joined.map fun n =>
      if isHighHalf n || isLowHalf n then '\uFFFD' else Char.ofNat n))
  else .str (String.ofList (joined.map Char.ofNat))

/-- The character that a one-letter escape stands for. -/
def escaped? (c : Char) : Option Char :=
  if c == '"' || c == '\\' || c == '/' then some c
  else if c == 'b' then some '\x08'
  else if c == 'f' then some '\x0c'
  else if c == 'n' then some '\n'
  else if c == 'r' then some '\r'
  else if c == 't' then some '\t'
  else none

/-- The code points up to the closing quote, `start` being the place of the opening one. -/
def readCodes (start : Cursor) : (fuel : Nat) → (acc : List Nat) → Cursor →
    Except ReadFault (List Nat × Cursor)
  | 0, _, _ => start.fail .unterminatedText
  | fuel + 1, acc, c =>
    match c.rest with
    | [] => start.fail .unterminatedText
    | '"' :: _ => .ok (acc.reverse, c.skip 1)
    | ['\\'] => start.fail .unterminatedText
    | '\\' :: 'u' :: more =>
      if more.length ≤ 4 then (c.skip 1).fail .badCodeEscape
      else
        match Text.hexNumber? (more.take 4) with
        | some n => readCodes start fuel (n :: acc) (c.skip 6)
        | none => (c.skip 1).fail .badCodeEscape
    | '\\' :: e :: _ =>
      match escaped? e with
      | some ch => readCodes start fuel (ch.toNat :: acc) (c.skip 2)
      | none => c.fail .badEscape
    | ch :: _ =>
      if ch.toNat < 0x20 then c.fail .controlCharacter
      else readCodes start fuel (ch.toNat :: acc) (c.skip 1)

/-- The text whose opening quote stands at the cursor. -/
def readText (c : Cursor) : Except ReadFault (Json × Cursor) := do
  let (codes, after) ← readCodes c (c.rest.length + 1) [] (c.skip 1)
  return (ofCodes codes, after)

/-! ## Numbers -/

/-- The fraction that follows a whole part, a point and at least one digit; nothing is consumed
where there is none. -/
def readFraction (c : Cursor) : Option (List Char) × Cursor :=
  match c.rest with
  | '.' :: more =>
    let digits := more.takeWhile Text.isDigitChar
    if digits.isEmpty then (none, c) else (some digits, c.skip (digits.length + 1))
  | _ => (none, c)

/-- The exponent that follows a number; nothing is consumed where it has no digits. -/
def readExponent (c : Cursor) : Option Int × Cursor :=
  match c.rest with
  | e :: more =>
    if e == 'e' || e == 'E' then
      let (negative, signs, digitsFrom) := match more with
        | '-' :: r => (true, 1, r)
        | '+' :: r => (false, 1, r)
        | r => (false, 0, r)
      let digits := digitsFrom.takeWhile Text.isDigitChar
      if digits.isEmpty then (none, c)
      else
        let n : Int := Text.digitsValue digits
        (some (if negative then -n else n), c.skip (1 + signs + digits.length))
    else (none, c)
  | [] => (none, c)

/-- The number at the cursor: a whole number unless a fraction or an exponent follows. -/
def readNumber (c : Cursor) : Except ReadFault (Json × Cursor) :=
  let negative := c.rest.head? == some '-'
  let body := if negative then c.skip 1 else c
  let whole := match body.rest with
    | '0' :: _ => ['0']
    | r => r.takeWhile Text.isDigitChar
  if whole.isEmpty then c.fail .expectingValue
  else
    let (fraction, afterFraction) := readFraction (body.skip whole.length)
    let (exponent, after) := readExponent afterFraction
    match fraction, exponent with
    | none, none =>
      if whole.length > Text.maxDigits then c.fail (.tooManyDigits whole.length)
      else
        let n : Int := Text.digitsValue whole
        .ok (.int (if negative then -n else n), after)
    | _, _ =>
      .ok (.float (Decimal.ofParts negative whole (fraction.getD []) (exponent.getD 0)), after)

/-! ## Values -/

/-- Words that are values. -/
def words : List (String × Json) :=
  [("null", .null), ("true", .bool true), ("false", .bool false), ("NaN", .float Decimal.notANumber),
   ("Infinity", .float Decimal.infinity), ("-Infinity", .float (-Decimal.infinity))]

/-- The word at the cursor. -/
def readWord? (c : Cursor) : Option (Json × Cursor) :=
  (words.find? fun w => w.1.toList.isPrefixOf c.rest).map fun w =>
    (w.2, c.skip w.1.length)

mutual

/-- The value at the cursor. -/
def readValue : (fuel : Nat) → Cursor → Except ReadFault (Json × Cursor)
  | 0, c => c.fail .expectingValue
  | fuel + 1, c =>
    match c.rest with
    | [] => c.fail .expectingValue
    | '"' :: _ => readText c
    | '{' :: _ =>
      let inner := (c.skip 1).skipBlanks
      match inner.rest with
      | '}' :: _ => .ok (.obj [], inner.skip 1)
      | _ => readMembers fuel [] inner
    | '[' :: _ =>
      let inner := (c.skip 1).skipBlanks
      match inner.rest with
      | ']' :: _ => .ok (.arr [], inner.skip 1)
      | _ => readItems fuel [] inner
    | _ =>
      match readWord? c with
      | some found => .ok found
      | none => readNumber c

/-- The members of an object from the cursor to its closing brace, after those in `acc`. -/
def readMembers : (fuel : Nat) → (acc : Members) → Cursor → Except ReadFault (Json × Cursor)
  | 0, _, c => c.fail .expectingValue
  | fuel + 1, acc, c =>
    match c.rest with
    | '"' :: _ => do
      let (key, afterKey) ← readText c
      let atColon := afterKey.skipBlanks
      match atColon.rest with
      | ':' :: _ =>
        let (value, afterValue) ← readValue fuel (atColon.skip 1).skipBlanks
        let acc := acc.put (key.text?.getD "") value
        let next := afterValue.skipBlanks
        match next.rest with
        | '}' :: _ => return (.obj acc, next.skip 1)
        | ',' :: _ => readMembers fuel acc (next.skip 1).skipBlanks
        | _ => next.fail .expectingComma
      | _ => atColon.fail .expectingColon
    | _ => c.fail .expectingKey

/-- The items of an array from the cursor to its closing bracket, after those in `acc`, the last
one first. -/
def readItems : (fuel : Nat) → (acc : List Json) → Cursor → Except ReadFault (Json × Cursor)
  | 0, _, c => c.fail .expectingValue
  | fuel + 1, acc, c => do
    let (value, afterValue) ← readValue fuel c
    let next := afterValue.skipBlanks
    match next.rest with
    | ']' :: _ => return (.arr (value :: acc).reverse, next.skip 1)
    | ',' :: _ => readItems fuel (value :: acc) (next.skip 1).skipBlanks
    | _ => next.fail .expectingComma

end

/-- The value a text holds. Every call either consumes a character or is the only one at its
place, so twice the length bounds their depth. -/
def read (text : String) : Except ReadFault Json := do
  let cs := text.toList
  if cs.head? == some '\uFEFF' then .error ⟨.byteOrderMark, 0⟩
  else
    let (value, after) ← readValue (2 * cs.length + 4) (Cursor.mk 0 cs).skipBlanks
    let trailing := after.skipBlanks
    if trailing.rest.isEmpty then return value else trailing.fail .extraData

/-! ## Messages -/

/-- What a fault says. -/
def ReadCause.message : ReadCause → String
  | byteOrderMark => "Unexpected UTF-8 BOM (decode using utf-8-sig)"
  | expectingValue => "Expecting value"
  | expectingKey => "Expecting property name enclosed in double quotes"
  | expectingColon => "Expecting ':' delimiter"
  | expectingComma => "Expecting ',' delimiter"
  | extraData => "Extra data"
  | unterminatedText => "Unterminated string starting at"
  | controlCharacter => "Invalid control character at"
  | badEscape => "Invalid \\escape"
  | badCodeEscape => "Invalid \\uXXXX escape"
  | tooManyDigits count => Text.tooManyDigits count

/-- Whether the fault lies in the form of the text, and not in the size of a number. -/
def ReadCause.isSyntactic : ReadCause → Bool
  | tooManyDigits _ => false
  | _ => true

/-- The line, counted from 1, and the column in it, counted from 1, of an offset. -/
def lineAndColumn (text : List Char) (position : Nat) : Nat × Nat :=
  let before := text.take position
  ((before.filter (· == '\n')).length + 1, (before.reverse.takeWhile (· != '\n')).length + 1)

/-- What a fault in a text says, with the place where it was found. -/
def ReadFault.message (f : ReadFault) (text : String) : String :=
  match f.cause with
  | .tooManyDigits _ => f.cause.message
  | cause =>
    let (line, column) := lineAndColumn text.toList f.position
    let what := cause.message
    let offset := f.position
    s!"{what}: line {line} column {column} (char {offset})"

end BrowserPlan.Json
