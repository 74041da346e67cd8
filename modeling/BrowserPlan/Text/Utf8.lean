/-!
# Decoding UTF-8

Bytes become characters, or the first bytes that cannot belong to one are reported: a byte that
starts no character, a character broken off by a byte that does not go on with it, or one broken
off by the end of the data.
-/
namespace BrowserPlan.Text.Utf8

/-- Why bytes are not UTF-8. -/
inductive Cause where
  | invalidStart
  | invalidContinuation
  | unexpectedEnd
  deriving Repr, DecidableEq

/-- Bytes that are not UTF-8: `first` to `last` are the ones at fault. -/
structure Fault where
  cause : Cause
  first : Nat
  last : Nat
  byte : Nat
  deriving Repr, DecidableEq

/-- Whether a byte goes on with a character. -/
def isContinuation (b : Nat) : Bool := 0x80 ≤ b && b ≤ 0xbf

/-- The bytes that may come second after a first byte: the overlong forms, the surrogates and
everything above the last code point are left out. -/
def isSecond (first b : Nat) : Bool :=
  isContinuation b &&
  !(first == 0xe0 && b < 0xa0) && !(first == 0xed && 0xa0 ≤ b) &&
  !(first == 0xf0 && b < 0x90) && !(first == 0xf4 && 0x90 ≤ b)

/-- How many bytes a character has that starts with this byte. -/
def width? (b : Nat) : Option Nat :=
  if b < 0x80 then some 1
  else if 0xc2 ≤ b && b ≤ 0xdf then some 2
  else if 0xe0 ≤ b && b ≤ 0xef then some 3
  else if 0xf0 ≤ b && b ≤ 0xf4 then some 4
  else none

/-- The leading bits of a character of the given width, from its first byte. -/
def leadBits (width b : Nat) : Nat :=
  match width with
  | 1 => b
  | 2 => b % 0x20
  | 3 => b % 0x10
  | _ => b % 8

/-- The next `need` bytes of a character, `taken` of which are read and hold `acc`. -/
def continuation (first : Nat) : (need taken acc : Nat) → List Nat →
    Except (Cause × Nat) (Nat × List Nat)
  | 0, _, acc, rest => .ok (acc, rest)
  | _ + 1, taken, _, [] => .error (.unexpectedEnd, taken)
  | need + 1, taken, acc, b :: rest =>
    let fits := if taken == 1 then isSecond first b else isContinuation b
    if fits then continuation first need (taken + 1) (acc * 0x40 + b % 0x40) rest
    else .error (.invalidContinuation, taken)

/-- The characters of the bytes, the first of which stands at `position`. -/
def decodeFrom : (fuel position : Nat) → List Nat → Except Fault (List Char)
  | 0, _, _ => .ok []
  | _ + 1, _, [] => .ok []
  | fuel + 1, position, b :: rest =>
    match width? b with
    | none => .error ⟨.invalidStart, position, position, b⟩
    | some width =>
      match continuation b (width - 1) 1 (leadBits width b) rest with
      | .error (cause, taken) => .error ⟨cause, position, position + taken - 1, b⟩
      | .ok (code, rest) =>
        (decodeFrom fuel (position + width) rest).map (Char.ofNat code :: ·)

/-- The text that bytes encode. -/
def decode (bytes : List UInt8) : Except Fault String :=
  (decodeFrom bytes.length 0 (bytes.map (·.toNat))).map String.ofList

/-- The bytes of a text. -/
def encode (s : String) : List UInt8 := s.toUTF8.toList

/-- What went wrong, in words. -/
def Cause.message : Cause → String
  | .invalidStart => "invalid start byte"
  | .invalidContinuation => "invalid continuation byte"
  | .unexpectedEnd => "unexpected end of data"

end BrowserPlan.Text.Utf8
