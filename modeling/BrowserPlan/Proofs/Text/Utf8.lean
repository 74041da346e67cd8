import BrowserPlan.Text.Utf8
import Mathlib.Data.List.Basic

/-!
# Decoding takes back encoding

Texts are told apart by their bytes (`encode_injective`), and decoding gives a text exactly where the bytes are those
of that text (`decode_eq_ok_iff`). So what cannot be decoded is the encoding of no text at all.
-/
namespace BrowserPlan.Text.Utf8

theorem loop_eq (bs : ByteArray) (i : Nat) (read : List UInt8) :
    ByteArray.toList.loop bs i read = read.reverse ++ bs.data.toList.drop i := by
  fun_induction ByteArray.toList.loop bs i read with
  | case1 i read h ih =>
    have hi : i < bs.data.toList.length := by simpa using h
    rw [ih, List.drop_eq_getElem_cons hi]
    simp [ByteArray.get!, h]
  | case2 i read h =>
    rw [List.drop_eq_nil_of_le (by simpa using h), List.append_nil]

theorem encode_eq_toByteArray (s : String) : encode s = s.toByteArray.data.toList :=
  loop_eq _ 0 []

/-- Two texts with the same bytes are the same. -/
theorem encode_injective {s t : String} (h : encode s = encode t) : s = t := by
  rw [encode_eq_toByteArray, encode_eq_toByteArray] at h
  exact String.toByteArray_inj.1 (ByteArray.ext (Array.toList_inj.1 h))

theorem encode_ofList (cs : List Char) : encode (String.ofList cs) = cs.flatMap String.utf8EncodeChar := by
  rw [encode_eq_toByteArray, String.toByteArray_ofList, List.utf8Encode]
  simp

/-! ## One character -/

/-- The bytes of a character, as numbers. -/
def codesOf (c : Char) : List Nat := (String.utf8EncodeChar c).map (·.toNat)

/-- The bytes of a character by its width. -/
theorem codesOf_eq (c : Char) : codesOf c =
    if c.toNat ≤ 0x7f then [c.toNat]
    else if c.toNat ≤ 0x7ff then [c.toNat / 0x40 + 0xc0, c.toNat % 0x40 + 0x80]
    else if c.toNat ≤ 0xffff then
      [c.toNat / 0x1000 + 0xe0, c.toNat / 0x40 % 0x40 + 0x80, c.toNat % 0x40 + 0x80]
    else [c.toNat / 0x40000 + 0xf0, c.toNat / 0x1000 % 0x40 + 0x80, c.toNat / 0x40 % 0x40 + 0x80,
      c.toNat % 0x40 + 0x80] := by
  have hmax : c.toNat < 0x110000 := by
    have := c.valid
    simp only [Char.toNat, UInt32.isValidChar, Nat.isValidChar] at this ⊢
    omega
  have hn : c.val.toNat = c.toNat := rfl
  unfold codesOf String.utf8EncodeChar
  simp only [hn]
  split_ifs <;> simp <;> omega

/-- Whether a byte may stand at a place of a character after the first one. -/
def Fits (first taken b : Nat) : Prop := (if taken == 1 then isSecond first b else isContinuation b) = true

instance (first taken b : Nat) : Decidable (Fits first taken b) := inferInstanceAs (Decidable (_ = true))

theorem fits_second {first b : Nat} : Fits first 1 b ↔
    (0x80 ≤ b ∧ b ≤ 0xbf) ∧ ¬(first = 0xe0 ∧ b < 0xa0) ∧ ¬(first = 0xed ∧ 0xa0 ≤ b) ∧
      ¬(first = 0xf0 ∧ b < 0x90) ∧ ¬(first = 0xf4 ∧ 0x90 ≤ b) := by
  simp [Fits, isSecond, isContinuation, and_assoc, imp_iff_not_or]

theorem fits_later {first taken b : Nat} (h : taken ≠ 1) : Fits first taken b ↔ 0x80 ≤ b ∧ b ≤ 0xbf := by
  simp [Fits, isContinuation, h]

/-- The rest of a character is read byte by byte, each of which must fit in its place. -/
theorem continuation_succ_eq_ok_iff {first need taken acc code : Nat} {bytes rest : List Nat} :
    continuation first (need + 1) taken acc bytes = .ok (code, rest) ↔
      ∃ b more, bytes = b :: more ∧ Fits first taken b ∧
        continuation first need (taken + 1) (acc * 0x40 + b % 0x40) more = .ok (code, rest) := by
  cases bytes with
  | nil => simp [continuation]
  | cons b more =>
    rw [continuation]
    change (if Fits first taken b then _ else _) = _ ↔ _
    by_cases hfits : Fits first taken b
    · rw [if_pos hfits]
      exact ⟨fun h => ⟨b, more, rfl, hfits, h⟩, by rintro ⟨_, _, ⟨⟩, -, h⟩; exact h⟩
    · rw [if_neg hfits]
      exact ⟨by rintro ⟨⟩, by rintro ⟨_, _, ⟨⟩, h, -⟩; exact absurd h hfits⟩

@[simp] theorem continuation_zero {first taken acc : Nat} {bytes : List Nat} :
    continuation first 0 taken acc bytes = .ok (acc, bytes) := by
  simp [continuation]

theorem toNat_lt (c : Char) : c.toNat < 0xd800 ∨ 0xdfff < c.toNat ∧ c.toNat < 0x110000 := by
  have := c.valid
  simp only [Char.toNat, UInt32.isValidChar, Nat.isValidChar] at this ⊢
  omega

/-- One character is read back from its bytes. -/
theorem continuation_codesOf (c : Char) (rest : List Nat) :
    ∃ b more, codesOf c = b :: more ∧ width? b = some (more.length + 1) ∧
      continuation b more.length 1 (leadBits (more.length + 1) b) (more ++ rest) = .ok (c.toNat, rest) := by
  have hvalid := toNat_lt c
  rw [codesOf_eq]
  generalize c.toNat = n at hvalid ⊢
  split_ifs with h1 h2 h3
  · exact ⟨n, [], rfl, by simp [width?]; omega, by simp [leadBits]⟩
  · refine ⟨_, _, rfl, ?_, ?_⟩
    · rw [width?, if_neg (by omega), if_pos (by simp; omega)]
      rfl
    · refine continuation_succ_eq_ok_iff.2 ⟨_, _, rfl, fits_second.2 (by omega), ?_⟩
      simp [leadBits]
      omega
  · refine ⟨_, _, rfl, ?_, ?_⟩
    · rw [width?, if_neg (by omega), if_neg (by simp), if_pos (by simp; omega)]
      rfl
    · refine continuation_succ_eq_ok_iff.2 ⟨_, _, rfl, fits_second.2 (by omega), ?_⟩
      refine continuation_succ_eq_ok_iff.2 ⟨_, _, rfl, (fits_later (by omega)).2 (by omega), ?_⟩
      simp [leadBits]
      omega
  · refine ⟨_, _, rfl, ?_, ?_⟩
    · rw [width?, if_neg (by omega), if_neg (by simp), if_neg (by simp), if_pos (by simp; omega)]
      rfl
    · refine continuation_succ_eq_ok_iff.2 ⟨_, _, rfl, fits_second.2 (by omega), ?_⟩
      refine continuation_succ_eq_ok_iff.2 ⟨_, _, rfl, (fits_later (by omega)).2 (by omega), ?_⟩
      refine continuation_succ_eq_ok_iff.2 ⟨_, _, rfl, (fits_later (by omega)).2 (by omega), ?_⟩
      simp [leadBits]
      omega

/-- What is read as one character is the bytes of that character, and they are all that is read. -/
theorem eq_codesOf_of_continuation {b width code : Nat} {bytes rest : List Nat} (hwidth : width? b = some width)
    (h : continuation b (width - 1) 1 (leadBits width b) bytes = .ok (code, rest)) :
    b :: bytes = codesOf (Char.ofNat code) ++ rest := by
  have hcode : ∀ n, n.isValidChar → (Char.ofNat n).toNat = n := fun n hn => by
    rw [Char.ofNat, dif_pos hn]
    rfl
  rw [width?] at hwidth
  split_ifs at hwidth with h1 h2 h3 h4 <;> cases hwidth
  · obtain ⟨rfl, rfl⟩ : b = code ∧ bytes = rest := by simpa [leadBits] using h
    rw [codesOf_eq, hcode _ (by left; omega), if_pos (by omega)]
    rfl
  · obtain ⟨x, more, rfl, hx, h⟩ := continuation_succ_eq_ok_iff.1 h
    rw [fits_second] at hx
    simp only [Bool.and_eq_true, decide_eq_true_eq] at h2
    obtain ⟨hc, rfl⟩ : b % 0x20 * 0x40 + x % 0x40 = code ∧ more = rest := by simpa [leadBits] using h
    rw [codesOf_eq, hcode _ (by left; omega), if_neg (by omega), if_pos (by omega)]
    simp
    omega
  · obtain ⟨x, more, rfl, hx, h⟩ := continuation_succ_eq_ok_iff.1 h
    obtain ⟨y, more, rfl, hy, h⟩ := continuation_succ_eq_ok_iff.1 h
    rw [fits_second] at hx
    rw [fits_later (by omega)] at hy
    simp only [Bool.and_eq_true, decide_eq_true_eq] at h3
    obtain ⟨hc, rfl⟩ : (b % 0x10 * 0x40 + x % 0x40) * 0x40 + y % 0x40 = code ∧ more = rest := by
      simpa [leadBits] using h
    rw [codesOf_eq, hcode _ (by simp only [Nat.isValidChar]; omega), if_neg (by omega), if_neg (by omega),
      if_pos (by omega)]
    simp
    omega
  · obtain ⟨x, more, rfl, hx, h⟩ := continuation_succ_eq_ok_iff.1 h
    obtain ⟨y, more, rfl, hy, h⟩ := continuation_succ_eq_ok_iff.1 h
    obtain ⟨z, more, rfl, hz, h⟩ := continuation_succ_eq_ok_iff.1 h
    rw [fits_second] at hx
    rw [fits_later (by omega)] at hy hz
    simp only [Bool.and_eq_true, decide_eq_true_eq] at h4
    obtain ⟨hc, rfl⟩ : ((b % 8 * 0x40 + x % 0x40) * 0x40 + y % 0x40) * 0x40 + z % 0x40 = code ∧ more = rest := by
      simpa [leadBits] using h
    rw [codesOf_eq, hcode _ (by simp only [Nat.isValidChar]; omega), if_neg (by omega), if_neg (by omega),
      if_neg (by omega)]
    simp
    omega

/-! ## Whole texts -/

/-- The bytes of a text, read from any place with enough fuel, give its characters. -/
theorem decodeFrom_codes (cs : List Char) : ∀ {fuel : Nat} (position : Nat), (cs.flatMap codesOf).length ≤ fuel →
    decodeFrom fuel position (cs.flatMap codesOf) = .ok cs := by
  induction cs with
  | nil =>
    intro fuel position _
    cases fuel <;> rfl
  | cons c cs ih =>
    intro fuel position hfuel
    obtain ⟨b, more, hcodes, hwidth, hread⟩ := continuation_codesOf c (cs.flatMap codesOf)
    rw [List.flatMap_cons, hcodes, List.cons_append] at hfuel ⊢
    cases fuel with
    | zero => simp at hfuel
    | succ fuel =>
      have hshort : (cs.flatMap codesOf).length ≤ fuel := by
        simp only [List.length_cons, List.length_append] at hfuel
        omega
      have hrest := ih (position + (more.length + 1)) hshort
      simp only [decodeFrom, hwidth, Nat.add_sub_cancel, hread, hrest]
      simp [Except.map]

/-- Characters that are read from bytes have those bytes. -/
theorem codes_of_decodeFrom {fuel : Nat} : ∀ {position : Nat} {bytes : List Nat} {cs : List Char},
    bytes.length ≤ fuel → decodeFrom fuel position bytes = .ok cs → bytes = cs.flatMap codesOf := by
  induction fuel with
  | zero =>
    intro position bytes cs hfuel h
    cases h
    simpa using hfuel
  | succ fuel ih =>
    intro position bytes cs hfuel h
    cases bytes with
    | nil =>
      cases h
      rfl
    | cons b bytes =>
      cases hwidth : width? b with
      | none => simp [decodeFrom, hwidth] at h
      | some width =>
        cases hread : continuation b (width - 1) 1 (leadBits width b) bytes with
        | error e => simp [decodeFrom, hwidth, hread] at h
        | ok found =>
          obtain ⟨code, rest⟩ := found
          have hbytes := eq_codesOf_of_continuation hwidth hread
          cases hrest : decodeFrom fuel (position + width) rest with
          | error e => simp [decodeFrom, hwidth, hread, hrest, Except.map] at h
          | ok cs' =>
            obtain rfl : Char.ofNat code :: cs' = cs := by
              simpa [decodeFrom, hwidth, hread, hrest, Except.map] using h
            obtain ⟨b', more, hcodes, -⟩ := continuation_codesOf (Char.ofNat code) []
            have hshorter : rest.length ≤ fuel := by
              have := congrArg List.length hbytes
              simp [hcodes] at this hfuel
              omega
            rw [hbytes, ih hshorter hrest, List.flatMap_cons]

theorem map_encode (s : String) : (encode s).map (·.toNat) = s.toList.flatMap codesOf := by
  rw [← String.ofList_toList (s := s), encode_ofList, String.toList_ofList, List.map_flatMap]
  rfl

/-- Decoding gives a text exactly where the bytes are those of that text. -/
theorem decode_eq_ok_iff {bytes : List UInt8} {s : String} : decode bytes = .ok s ↔ encode s = bytes := by
  constructor
  · intro h
    rw [decode] at h
    cases hcs : decodeFrom bytes.length 0 (bytes.map (·.toNat)) with
    | error e => simp [hcs, Except.map] at h
    | ok cs =>
      obtain rfl : String.ofList cs = s := by simpa [hcs, Except.map] using h
      have hbytes := codes_of_decodeFrom (by simp) hcs
      refine (List.map_injective_iff.2 fun a b hab => UInt8.toNat_inj.1 hab) ?_
      rw [map_encode, String.toList_ofList, hbytes]
  · rintro rfl
    have hlen : (s.toList.flatMap codesOf).length = (encode s).length := by
      rw [← map_encode, List.length_map]
    rw [decode, map_encode, decodeFrom_codes s.toList 0 (Nat.le_of_eq hlen)]
    simp [Except.map]

end BrowserPlan.Text.Utf8
