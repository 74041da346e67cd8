import BrowserPlan.Json.Reader
import Mathlib.Data.List.TakeWhile

/-!
# What a text is refused for

A text that is no JSON value is refused for its form, or for a numeral in it with more digits than are ever read
(`hasLongNumeral_of_read`). Every reader of a part stays within the text, so a numeral that one of them refuses is a
piece of it.
-/
namespace BrowserPlan.Json

/-- A run of digits stands in a text that is too long to be read as a number. -/
def HasLongNumeral (text : List Char) : Prop :=
  ∃ digits, digits <:+: text ∧ Text.maxDigits < digits.length ∧ ∀ d ∈ digits, Text.isDigitChar d = true

/-- A reader that goes on within a text, or refuses it for its form or for a numeral that is too long. -/
def StaysIn {α : Type} (text : List Char) : Except ReadFault (α × Cursor) → Prop
  | .ok (_, after) => after.rest <:+ text
  | .error fault => fault.cause.isSyntactic = false → HasLongNumeral text

variable {α β : Type} {text : List Char} {c start : Cursor}

theorem StaysIn.ok {a : α} (h : c.rest <:+ text) : StaysIn text (.ok (a, c)) := h

theorem StaysIn.fail {cause : ReadCause} (h : cause.isSyntactic = true) : StaysIn (α := α) text (c.fail cause) :=
  fun hfalse => absurd hfalse (by simp [h])

theorem StaysIn.bind {r : Except ReadFault (α × Cursor)} {next : α × Cursor → Except ReadFault (β × Cursor)}
    (hr : StaysIn text r) (hnext : ∀ a c, c.rest <:+ text → StaysIn text (next (a, c))) : StaysIn text (r >>= next) := by
  cases r with
  | error fault => exact hr
  | ok found => exact hnext found.1 found.2 hr

theorem suffix_skip (h : c.rest <:+ text) (n : Nat) : (c.skip n).rest <:+ text :=
  (List.drop_suffix n c.rest).trans h

theorem suffix_skipBlanks (h : c.rest <:+ text) : c.skipBlanks.rest <:+ text :=
  (List.dropWhile_suffix _).trans h

theorem staysIn_readCodes {fuel : Nat} : ∀ {acc : List Nat} {c : Cursor}, c.rest <:+ text →
    StaysIn text (readCodes start fuel acc c) := by
  induction fuel with
  | zero => exact fun _ => .fail rfl
  | succ fuel ih =>
    intro acc c hc
    rw [readCodes.eq_def]
    dsimp only
    split
    · exact .fail rfl
    · exact .ok (suffix_skip hc 1)
    · exact .fail rfl
    · split
      · exact .fail rfl
      · split
        · exact ih (suffix_skip hc 6)
        · exact .fail rfl
    · split
      · exact ih (suffix_skip hc 2)
      · exact .fail rfl
    · split
      · exact .fail rfl
      · exact ih (suffix_skip hc 1)

theorem staysIn_readText (hc : c.rest <:+ text) : StaysIn text (readText c) :=
  (staysIn_readCodes (suffix_skip hc 1)).bind fun _ _ h => .ok h

theorem suffix_readFraction (hc : c.rest <:+ text) : (readFraction c).2.rest <:+ text := by
  rw [readFraction]
  split
  · dsimp only
    split
    · exact hc
    · exact suffix_skip hc _
  · exact hc

theorem suffix_readExponent (hc : c.rest <:+ text) : (readExponent c).2.rest <:+ text := by
  rw [readExponent.eq_def]
  split
  · split
    · -- however the digits are found, what is skipped lies ahead of the cursor
      split
      all_goals
        dsimp only
        split
        · exact hc
        · exact suffix_skip hc _
    · exact hc
  · exact hc

/-- The digits before the point: a single zero, or as many as there are. -/
def wholePart : List Char → List Char
  | '0' :: _ => ['0']
  | cs => cs.takeWhile Text.isDigitChar

/-- Past the sign of a number. -/
def Cursor.unsigned (c : Cursor) : Cursor := if (c.rest.head? == some '-') = true then c.skip 1 else c

theorem readNumber_eq (c : Cursor) : readNumber c =
    let negative := c.rest.head? == some '-'
    let whole := wholePart c.unsigned.rest
    if whole.isEmpty then c.fail .expectingValue
    else
      let (fraction, afterFraction) := readFraction (c.unsigned.skip whole.length)
      let (exponent, after) := readExponent afterFraction
      match fraction, exponent with
      | none, none =>
        if whole.length > Text.maxDigits then c.fail (.tooManyDigits whole.length)
        else .ok (.int (if negative then -(Text.digitsValue whole : Int) else Text.digitsValue whole), after)
      | _, _ =>
        .ok (.float (Decimal.ofParts negative whole (fraction.getD []) (exponent.getD 0)), after) :=
  rfl

theorem hasLongNumeral_of_wholePart {cs : List Char} (h : cs <:+ text)
    (hlong : Text.maxDigits < (wholePart cs).length) : HasLongNumeral text := by
  rw [wholePart.eq_def] at hlong
  split at hlong
  · simp [Text.maxDigits] at hlong
  · exact ⟨_, (List.takeWhile_prefix _).isInfix.trans h.isInfix, hlong, fun d hd => List.mem_takeWhile_imp hd⟩

theorem staysIn_readNumber (hc : c.rest <:+ text) : StaysIn text (readNumber c) := by
  have hunsigned : c.unsigned.rest <:+ text := by
    rw [Cursor.unsigned]
    split
    · exact suffix_skip hc 1
    · exact hc
  rw [readNumber_eq]
  dsimp only
  have hafter := suffix_readExponent (suffix_readFraction (suffix_skip hunsigned (wholePart c.unsigned.rest).length))
  split
  · exact .fail rfl
  · split
    · split
      · rename_i hlong
        exact fun _ => hasLongNumeral_of_wholePart hunsigned hlong
      · exact .ok hafter
    · exact .ok hafter

theorem suffix_readWord? {found : Json × Cursor} (hc : c.rest <:+ text) (h : readWord? c = some found) :
    found.2.rest <:+ text := by
  obtain ⟨w, -, rfl⟩ := Option.map_eq_some_iff.1 h
  exact suffix_skip hc _

/-- Values, members and items are read within the text, to any depth. -/
theorem staysIn_readers (fuel : Nat) :
    (∀ c : Cursor, c.rest <:+ text → StaysIn text (readValue fuel c)) ∧
    (∀ (acc : Members) (c : Cursor), c.rest <:+ text → StaysIn text (readMembers fuel acc c)) ∧
    (∀ (acc : List Json) (c : Cursor), c.rest <:+ text → StaysIn text (readItems fuel acc c)) := by
  induction fuel with
  | zero => exact ⟨fun _ _ => .fail rfl, fun _ _ _ => .fail rfl, fun _ _ _ => .fail rfl⟩
  | succ fuel ih =>
    obtain ⟨ihvalue, ihmembers, ihitems⟩ := ih
    refine ⟨fun c hc => ?_, fun acc c hc => ?_, fun acc c hc => ?_⟩
    · have hinner := suffix_skipBlanks (suffix_skip hc 1)
      rw [readValue.eq_def]
      dsimp only
      split
      · exact .fail rfl
      · exact staysIn_readText hc
      · split
        · exact .ok (suffix_skip hinner 1)
        · exact ihmembers [] _ hinner
      · split
        · exact .ok (suffix_skip hinner 1)
        · exact ihitems [] _ hinner
      · split
        · rename_i hword
          exact .ok (suffix_readWord? hc hword)
        · exact staysIn_readNumber hc
    · rw [readMembers.eq_def]
      dsimp only
      split
      · refine (staysIn_readText hc).bind fun key afterKey hkey => ?_
        have hcolon := suffix_skipBlanks hkey
        dsimp only
        split
        · refine (ihvalue _ (suffix_skipBlanks (suffix_skip hcolon 1))).bind fun value afterValue hvalue => ?_
          have hnext := suffix_skipBlanks hvalue
          dsimp only
          split
          · exact .ok (suffix_skip hnext 1)
          · exact ihmembers _ _ (suffix_skipBlanks (suffix_skip hnext 1))
          · exact .fail rfl
        · exact .fail rfl
      · exact .fail rfl
    · rw [readItems.eq_def]
      dsimp only
      refine (ihvalue _ hc).bind fun value afterValue hvalue => ?_
      have hnext := suffix_skipBlanks hvalue
      dsimp only
      split
      · exact .ok (suffix_skip hnext 1)
      · exact ihitems _ _ (suffix_skipBlanks (suffix_skip hnext 1))
      · exact .fail rfl

/-- A text that is not refused for its form has a numeral in it that is too long. -/
theorem hasLongNumeral_of_read {s : String} {fault : ReadFault} (h : read s = .error fault)
    (hform : fault.cause.isSyntactic = false) : HasLongNumeral s.toList := by
  rw [read] at h
  dsimp only at h
  split at h
  · cases h
    cases hform
  · have hvalue := (staysIn_readers (2 * s.toList.length + 4)).1 (Cursor.mk 0 s.toList).skipBlanks
      (suffix_skipBlanks (List.suffix_refl s.toList))
    cases hread : readValue (2 * s.toList.length + 4) (Cursor.mk 0 s.toList).skipBlanks with
    | error fault' =>
      rw [hread] at h hvalue
      cases h
      exact hvalue hform
    | ok found =>
      rw [hread] at h
      simp only [bind, Except.bind] at h
      split at h
      · cases h
      · cases h
        cases hform

end BrowserPlan.Json
