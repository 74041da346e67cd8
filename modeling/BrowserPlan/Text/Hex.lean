/-!
# Hexadecimal digits

Digits in lower case, padded on the left to a least width, and the value of a digit read back.
-/
namespace BrowserPlan.Text

/-- The digit that stands for a value below 16. -/
def hexDigit (n : Nat) : Char := Nat.digitChar n

/-- The value of a hexadecimal digit in either case. -/
def hexValue? (c : Char) : Option Nat :=
  let n := c.toNat
  if 0x30 ≤ n ∧ n ≤ 0x39 then some (n - 0x30)
  else if 0x61 ≤ n ∧ n ≤ 0x66 then some (n - 0x61 + 10)
  else if 0x41 ≤ n ∧ n ≤ 0x46 then some (n - 0x41 + 10)
  else none

/-- The last `width` hexadecimal digits of `n`. -/
def hexPadded : (width : Nat) → (n : Nat) → List Char
  | 0, _ => []
  | w + 1, n => hexPadded w (n / 16) ++ [hexDigit (n % 16)]

theorem hexPadded_length (w n : Nat) : (hexPadded w n).length = w := by
  induction w generalizing n with
  | zero => rfl
  | succ w ih => simp [hexPadded, ih]

/-- Its digits are hexadecimal. -/
theorem hexValue_of_mem_hexPadded {w n : Nat} {c : Char} (h : c ∈ hexPadded w n) : (hexValue? c).isSome = true := by
  have hdigit : ∀ m, m < 16 → (hexValue? (hexDigit m)).isSome = true := by decide
  induction w generalizing n with
  | zero => cases h
  | succ w ih =>
    rcases List.mem_append.1 h with h | h
    · exact ih h
    · obtain rfl := List.mem_singleton.1 h
      exact hdigit _ (Nat.mod_lt _ (by decide))

/-- The value of a run of hexadecimal digits, none when another character is among them. -/
def hexNumber? (cs : List Char) : Option Nat :=
  cs.foldlM (fun acc c => (hexValue? c).map (16 * acc + ·)) 0

/-- The digits `0` to `9`. -/
def isDigitChar (c : Char) : Bool := '0' ≤ c && c ≤ '9'

/-- The value of a run of decimal digits. -/
def digitsValue (cs : List Char) : Nat := cs.foldl (fun acc c => 10 * acc + (c.toNat - 0x30)) 0

/-- The most decimal digits a whole number may have in a text. -/
def maxDigits : Nat := 4300

/-- What is said of a whole number that has more digits than are ever read. -/
def tooManyDigits (count : Nat) : String :=
  s!"Exceeds the limit ({maxDigits} digits) for integer string conversion: value has {count}" ++
    " digits; use sys.set_int_max_str_digits() to increase the limit"

end BrowserPlan.Text
