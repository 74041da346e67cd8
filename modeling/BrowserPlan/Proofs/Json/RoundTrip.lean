import BrowserPlan.Proofs.Json.Documents
import BrowserPlan.Proofs.Json.Faults
import BrowserPlan.Proofs.Text.Utf8

/-!
# What was written reads back

A value of nulls, booleans, whole numbers that are not too long, texts, arrays, and objects without a key given twice is
written as a document that reads as the same value, its members in the same order. So different values of this
kind are written differently (`written_reads_back`).

Every reader of a part is shown to find the part that was written at its cursor and to stop right behind it. Only
numbers have to be told where they end; what follows a written value never goes on with a number.
-/
namespace BrowserPlan.Json

/-- Values without floats, some of which are written as words, and without texts that hold half a surrogate pair. Their
whole numbers are not too long, and no key is given twice. -/
inductive IsPlain : Json → Prop where
  | null : IsPlain .null
  | bool (b : Bool) : IsPlain (.bool b)
  | int {n : Int} (h : (Nat.toDigits 10 n.natAbs).length ≤ Text.maxDigits) : IsPlain (.int n)
  | str (s : String) : IsPlain (.str s)
  | arr {vs : List Json} (h : ∀ v ∈ vs, IsPlain v) : IsPlain (.arr vs)
  | obj {ms : Members} (hkeys : (ms.map (·.1)).Nodup) (h : ∀ m ∈ ms, IsPlain m.2) : IsPlain (.obj ms)

/-- Reading goes well and stops right before `rest`, with the value `a`. -/
def Reads {α : Type} (r : Except ReadFault (α × Cursor)) (a : α) (rest : List Char) : Prop :=
  ∃ after : Cursor, after.rest = rest ∧ r = .ok (a, after)

section
variable {α β : Type} {a : α} {b : β} {rest rest' : List Char} {c : Cursor}

theorem Reads.bind {r : Except ReadFault (α × Cursor)} {next : α × Cursor → Except ReadFault (β × Cursor)}
    (hr : Reads r a rest) (hnext : ∀ after : Cursor, after.rest = rest → Reads (next (a, after)) b rest') :
    Reads (r >>= next) b rest' := by
  obtain ⟨after, hafter, rfl⟩ := hr
  exact hnext after hafter

end

/-! ## Blanks -/

/-- A character that is no blank. -/
def NotBlank (ch : Char) : Prop := ch ≠ ' ' ∧ ch ≠ '\t' ∧ ch ≠ '\n' ∧ ch ≠ '\r'

instance (ch : Char) : Decidable (NotBlank ch) := inferInstanceAs (Decidable (_ ∧ _ ∧ _ ∧ _))

/-- Blanks are passed up to the first character that is none. -/
theorem rest_skipBlanks {c : Cursor} {bs cs : List Char} {ch : Char} (hc : c.rest = bs ++ ch :: cs) (hbs : IsBlanks bs)
    (hch : NotBlank ch) : c.skipBlanks.rest = ch :: cs := by
  have hall : ∀ b ∈ bs, (b == ' ' || b == '\t' || b == '\n' || b == '\r') = true := fun b hb => by
    simpa [or_assoc] using hbs b hb
  rw [Cursor.skipBlanks, Cursor.skipWhile, hc]
  dsimp only
  rw [List.dropWhile_append_of_pos hall, List.dropWhile_cons_of_neg (by simpa [NotBlank, and_assoc] using hch)]

theorem rest_skipBlanks_cons {c : Cursor} {cs : List Char} {ch : Char} (hc : c.rest = ch :: cs) (hch : NotBlank ch) :
    c.skipBlanks.rest = ch :: cs :=
  rest_skipBlanks (c := c) hc isBlanks_nil hch

/-! ## Texts -/

theorem hexNumber_hexPadded : ∀ n < 0x20, Text.hexNumber? (Text.hexPadded 4 n) = some n := by decide

/-- What is written for one character is read as its code point, if more follows. -/
theorem readCodes_escapeChar {start c : Cursor} (fuel : Nat) (acc : List Nat) {ch : Char} {more : List Char}
    (hc : c.rest = escapeChar ch ++ more) (hmore : more ≠ []) :
    ∃ after : Cursor, after.rest = more ∧
      readCodes start (fuel + 1) acc c = readCodes start fuel (ch.toNat :: acc) after := by
  -- an escape of one letter
  have hletter : ∀ e, escapeChar ch = ['\\', e] → escaped? e = some ch → e ≠ 'u' →
      ∃ after : Cursor, after.rest = more ∧
        readCodes start (fuel + 1) acc c = readCodes start fuel (ch.toNat :: acc) after := by
    intro e he hescaped hu
    rw [he] at hc
    refine ⟨c.skip 2, by simp [Cursor.skip, hc], ?_⟩
    rw [readCodes.eq_def]
    dsimp only
    rw [hc]
    split
    case h_6 =>
      rename_i hother heq
      cases heq
      exact False.elim (hother _ _ rfl rfl)
    all_goals simp_all
  by_cases hquote : ch = '"'
  · exact hletter '"' (by rw [hquote]; rfl) (by rw [hquote]; rfl) (by decide)
  by_cases hslash : ch = '\\'
  · exact hletter '\\' (by rw [hslash]; rfl) (by rw [hslash]; rfl) (by decide)
  by_cases hn : ch = '\n'
  · exact hletter 'n' (by rw [hn]; rfl) (by rw [hn]; rfl) (by decide)
  by_cases hr : ch = '\r'
  · exact hletter 'r' (by rw [hr]; rfl) (by rw [hr]; rfl) (by decide)
  by_cases ht : ch = '\t'
  · exact hletter 't' (by rw [ht]; rfl) (by rw [ht]; rfl) (by decide)
  by_cases hb : ch = '\x08'
  · exact hletter 'b' (by rw [hb]; rfl) (by rw [hb]; rfl) (by decide)
  by_cases hf : ch = '\x0c'
  · exact hletter 'f' (by rw [hf]; rfl) (by rw [hf]; rfl) (by decide)
  by_cases hcontrol : ch.toNat < 0x20
  · have hescape : escapeChar ch = '\\' :: 'u' :: Text.hexPadded 4 ch.toNat := by
      simp [escapeChar, hquote, hslash, hn, hr, ht, hb, hf, hcontrol]
    rw [hescape] at hc
    have hlong : ¬(Text.hexPadded 4 ch.toNat ++ more).length ≤ 4 := by
      have := List.length_pos_of_ne_nil hmore
      rw [List.length_append, Text.hexPadded_length]
      omega
    have htake : (Text.hexPadded 4 ch.toNat ++ more).take 4 = Text.hexPadded 4 ch.toNat :=
      List.take_left' (Text.hexPadded_length 4 _)
    have hdrop : (Text.hexPadded 4 ch.toNat ++ more).drop 4 = more := List.drop_left' (Text.hexPadded_length 4 _)
    refine ⟨c.skip 6, by simp [Cursor.skip, hc, hdrop], ?_⟩
    rw [readCodes.eq_def]
    dsimp only
    rw [hc]
    simp only [List.cons_append, hlong, if_false, htake, hexNumber_hexPadded _ hcontrol]
  · have hplain : escapeChar ch = [ch] := by
      simp [escapeChar, hquote, hslash, hn, hr, ht, hb, hf, hcontrol]
    rw [hplain] at hc
    refine ⟨c.skip 1, by simp [Cursor.skip, hc], ?_⟩
    rw [readCodes.eq_def]
    dsimp only
    rw [hc]
    split
    case h_6 =>
      rename_i heq
      cases heq
      rw [if_neg hcontrol]
    all_goals simp_all

/-- The code points of a written text are read up to its closing quote. -/
theorem readCodes_written {start : Cursor} (cs : List Char) : ∀ {fuel : Nat} (acc : List Nat) {c : Cursor}
    {rest : List Char}, cs.length < fuel → c.rest = cs.flatMap escapeChar ++ '"' :: rest →
      Reads (readCodes start fuel acc c) (acc.reverse ++ cs.map (·.toNat)) rest := by
  induction cs with
  | nil =>
    intro fuel acc c rest hfuel hc
    obtain ⟨fuel, rfl⟩ := Nat.exists_eq_add_one_of_ne_zero (Nat.ne_of_gt hfuel)
    refine ⟨c.skip 1, by simp [Cursor.skip, hc], ?_⟩
    rw [readCodes.eq_def]
    dsimp only
    rw [hc]
    simp
  | cons ch cs ih =>
    intro fuel acc c rest hfuel hc
    rw [List.length_cons] at hfuel
    obtain ⟨fuel, rfl⟩ := Nat.exists_eq_add_one_of_ne_zero (Nat.ne_zero_of_lt hfuel)
    rw [List.flatMap_cons, List.append_assoc] at hc
    obtain ⟨after, hafter, hread⟩ := readCodes_escapeChar fuel acc hc (by simp)
    rw [hread]
    simpa using ih (ch.toNat :: acc) (Nat.lt_of_succ_lt_succ hfuel) hafter

theorem not_half (c : Char) : (isHighHalf c.toNat || isLowHalf c.toNat) = false := by
  have := Text.Utf8.toNat_lt c
  simp [isHighHalf, isLowHalf]
  omega

/-- No character is half of another one. -/
theorem joinHalves_codes (cs : List Char) : joinHalves (cs.map (·.toNat)) = cs.map (·.toNat) := by
  induction cs with
  | nil => rfl
  | cons c cs ih =>
    cases cs with
    | nil => rfl
    | cons d cs =>
      have hhigh : isHighHalf c.toNat = false := (Bool.or_eq_false_iff.1 (not_half c)).1
      rw [List.map_cons, List.map_cons, joinHalves, ← List.map_cons (f := (·.toNat)) (a := d), ih]
      simp [hhigh]

theorem ofCodes_codes (cs : List Char) : ofCodes (cs.map (·.toNat)) = .str (String.ofList cs) := by
  have hnone : (cs.map (·.toNat)).any (fun n => isHighHalf n || isLowHalf n) = false := by
    simp [List.any_map, Function.comp_def, not_half]
  rw [ofCodes, joinHalves_codes]
  simp [hnone, Function.comp_def]

theorem length_le_escaped (cs : List Char) : cs.length ≤ (cs.flatMap escapeChar).length := by
  have hone : ∀ c, 1 ≤ (escapeChar c).length := fun c => by
    rw [escapeChar]
    split_ifs <;> simp
  induction cs with
  | nil => simp
  | cons c cs ih =>
    have := hone c
    simp only [List.flatMap_cons, List.length_append, List.length_cons]
    omega

/-- A written text is read back. -/
theorem readText_written {c : Cursor} {s : String} {rest : List Char} (hc : c.rest = writeText s ++ rest) :
    Reads (readText c) (.str s) rest := by
  have hbody : (c.skip 1).rest = s.toList.flatMap escapeChar ++ '"' :: rest := by
    simp [Cursor.skip, hc, writeText]
  have hfuel : s.toList.length < c.rest.length + 1 := by
    have := length_le_escaped s.toList
    rw [hc, writeText]
    simp only [List.length_cons, List.length_append]
    omega
  refine (readCodes_written s.toList [] hfuel hbody).bind fun after hafter => ⟨after, hafter, ?_⟩
  dsimp only
  rw [List.reverse_nil, List.nil_append, ofCodes_codes, String.ofList_toList]
  rfl

/-! ## Numbers -/

/-- What may follow a written value: nothing, a comma, or the next line. -/
def IsBehind (rest : List Char) : Prop := rest = [] ∨ ∃ cs, rest = ',' :: cs ∨ rest = '\n' :: cs

theorem isDigitChar_eq (c : Char) : Text.isDigitChar c = c.isDigit := by
  simp [Text.isDigitChar, Char.isDigit, Char.le_def]

theorem takeWhile_digits {ds rest : List Char} (hds : ∀ d ∈ ds, d.isDigit = true) (hrest : IsBehind rest) :
    (ds ++ rest).takeWhile Text.isDigitChar = ds := by
  rw [List.takeWhile_append_of_pos fun d hd => by rw [isDigitChar_eq, hds d hd]]
  have hnone : rest.takeWhile Text.isDigitChar = [] := by
    rcases hrest with rfl | ⟨cs, rfl | rfl⟩
    · rfl
    · exact List.takeWhile_cons_of_neg (by decide)
    · exact List.takeWhile_cons_of_neg (by decide)
  rw [hnone, List.append_nil]

/-- The digits of a number are all digits up to what follows, and a zero stands alone. -/
theorem wholePart_toDigits {n : Nat} {rest : List Char} (hrest : IsBehind rest) :
    wholePart (Nat.toDigits 10 n ++ rest) = Nat.toDigits 10 n := by
  rcases Nat.eq_zero_or_pos n with rfl | hn
  · rfl
  · obtain ⟨d, ds, hdigits, hd⟩ := exists_toDigits hn
    have hall : ∀ c ∈ d :: ds, c.isDigit = true := fun c hc => isDigit_toDigits (hdigits ▸ hc)
    rw [hdigits, wholePart.eq_def]
    split
    · rename_i heq
      cases heq
      exact absurd rfl hd
    · exact takeWhile_digits hall hrest

theorem digitsValue_toDigits (n : Nat) : Text.digitsValue (Nat.toDigits 10 n) = n := by
  have := Nat.ofDigitChars_ten_toDigits (n := n)
  rwa [Nat.ofDigitChars_eq_foldl] at this

theorem readFraction_behind {c : Cursor} (h : IsBehind c.rest) : readFraction c = (none, c) := by
  rw [readFraction.eq_def]
  rcases h with h | ⟨cs, h | h⟩ <;> simp [h]

theorem readExponent_behind {c : Cursor} (h : IsBehind c.rest) : readExponent c = (none, c) := by
  rw [readExponent.eq_def]
  rcases h with h | ⟨cs, h | h⟩ <;> rw [h] <;> rfl

/-- A written number is read back, if it is not too long. -/
theorem readNumber_written {c : Cursor} {n : Int} {rest : List Char} (hc : c.rest = writeInt n ++ rest)
    (hlong : (Nat.toDigits 10 n.natAbs).length ≤ Text.maxDigits) (hrest : IsBehind rest) :
    Reads (readNumber c) (.int n) rest := by
  have hsign : (c.rest.head? == some '-') = decide (n < 0) ∧ c.unsigned.rest = Nat.toDigits 10 n.natAbs ++ rest := by
    rw [writeInt] at hc
    split at hc
    · rename_i hneg
      simp [Cursor.unsigned, Cursor.skip, hc, hneg]
    · rename_i hneg
      obtain ⟨d, ds, hdigits⟩ := List.exists_cons_of_ne_nil (Nat.toDigits_ne_nil (n := n.natAbs) (b := 10))
      have hd : d ≠ '-' := by
        have := isDigit_toDigits (n := n.natAbs) (c := d) (by simp [hdigits])
        rintro rfl
        cases this
      simp [Cursor.unsigned, hc, hdigits, hneg, hd]
  obtain ⟨hneg, hunsigned⟩ := hsign
  have hafter : (c.unsigned.skip (Nat.toDigits 10 n.natAbs).length).rest = rest := by
    simp [Cursor.skip, hunsigned]
  have hbehind : IsBehind (c.unsigned.skip (Nat.toDigits 10 n.natAbs).length).rest := hafter ▸ hrest
  have hvalue : (if decide (n < 0) = true then -(n.natAbs : Int) else n.natAbs) = n := by
    split <;> rename_i h <;> simp at h <;> omega
  refine ⟨_, hafter, ?_⟩
  rw [readNumber_eq]
  dsimp only
  rw [hunsigned, wholePart_toDigits hrest, hneg, readFraction_behind hbehind]
  dsimp only
  rw [readExponent_behind hbehind]
  dsimp only
  rw [digitsValue_toDigits, if_neg (by simp), if_neg (by omega), hvalue]

/-! ## Values -/

/-- A member with a new key is put at the end. -/
theorem put_of_not_mem {ms : Members} {k : String} {v : Json} (h : k ∉ ms.map (·.1)) : ms.put k v = ms ++ [(k, v)] := by
  induction ms with
  | nil => rfl
  | cons m ms ih =>
    obtain ⟨hne, hms⟩ := not_or.1 (mt List.mem_cons.2 h)
    have hother : (m.1 == k) = false := by simpa using Ne.symm hne
    rw [Members.put, if_neg (by simp [hother]), ih hms]
    rfl

/-- A character with which a value can begin; it is no blank and closes nothing. -/
def IsFirst (ch : Char) : Prop :=
  ch = '"' ∨ ch = '[' ∨ ch = '\x7b' ∨ ch = '-' ∨ ch = 'n' ∨ ch = 't' ∨ ch = 'f' ∨ ch.isDigit = true

theorem exists_first_toDigits (n : Nat) : ∃ ch cs, Nat.toDigits 10 n = ch :: cs ∧ ch.isDigit = true := by
  obtain ⟨d, ds, hdigits⟩ := List.exists_cons_of_ne_nil (Nat.toDigits_ne_nil (n := n) (b := 10))
  exact ⟨d, ds, hdigits, isDigit_toDigits (n := n) (by simp [hdigits])⟩

theorem exists_first_write {v : Json} (h : v.IsPlain) (depth : Nat) :
    ∃ ch cs, write depth v = ch :: cs ∧ IsFirst ch := by
  cases h with
  | null => exact ⟨'n', _, rfl, by simp [IsFirst]⟩
  | bool b =>
    cases b with
    | true => exact ⟨'t', _, rfl, by simp [IsFirst]⟩
    | false => exact ⟨'f', _, rfl, by simp [IsFirst]⟩
  | @int n _ =>
    obtain ⟨d, ds, hdigits, hd⟩ := exists_first_toDigits n.natAbs
    rw [write, writeInt]
    split
    · exact ⟨'-', _, rfl, by simp [IsFirst]⟩
    · exact ⟨d, ds, hdigits, by simp [IsFirst, hd]⟩
  | str s => exact ⟨'"', _, rfl, by simp [IsFirst]⟩
  | @arr vs _ => cases vs <;> exact ⟨'[', _, rfl, by simp [IsFirst]⟩
  | @obj ms _ _ => cases ms <;> exact ⟨'\x7b', _, rfl, by simp [IsFirst]⟩

/-- What was written of a value, at any depth, is read as the value, with as much fuel as there are characters. -/
def ReadsBack (v : Json) : Prop :=
  ∀ (depth fuel : Nat) {c : Cursor} {rest : List Char}, (write depth v).length ≤ fuel → c.rest = write depth v ++ rest →
    IsBehind rest → Reads (readValue fuel c) v rest

/-- A value that begins with no quote and no bracket is a word or a number. -/
theorem readValue_other {fuel : Nat} {c : Cursor} {ch : Char} {cs : List Char} (hc : c.rest = ch :: cs)
    (hquote : ch ≠ '"') (hbrace : ch ≠ '\x7b') (hbracket : ch ≠ '[') :
    readValue (fuel + 1) c = match readWord? c with | some found => .ok found | none => readNumber c := by
  rw [readValue.eq_def]
  dsimp only
  rw [hc]
  split
  case h_5 => rfl
  all_goals simp_all

theorem readsBack_word {v : Json} {w : List Char} (hwrite : ∀ depth, write depth v = w)
    (hfirst : ∃ ch cs, w = ch :: cs ∧ ch ≠ '"' ∧ ch ≠ '\x7b' ∧ ch ≠ '[')
    (hread : ∀ (c : Cursor) (rest : List Char), c.rest = w ++ rest → readWord? c = some (v, c.skip w.length)) :
    ReadsBack v := by
  intro depth fuel c rest hfuel hc _
  rw [hwrite] at hfuel hc
  obtain ⟨ch, cs, rfl, hquote, hbrace, hbracket⟩ := hfirst
  obtain ⟨fuel, rfl⟩ := Nat.exists_eq_add_one_of_ne_zero (n := fuel) (by simp at hfuel; omega)
  refine ⟨c.skip (ch :: cs).length, by simp [Cursor.skip, hc], ?_⟩
  rw [readValue_other (by rw [hc]; rfl) hquote hbrace hbracket, hread c rest hc]

theorem readsBack_null : ReadsBack .null :=
  readsBack_word (w := "null".toList) (fun _ => rfl) ⟨'n', _, rfl, by decide⟩ fun c rest hc => by
    simp [readWord?, words, hc]
    rfl

theorem readsBack_bool (b : Bool) : ReadsBack (.bool b) := by
  cases b with
  | true =>
    refine readsBack_word (w := "true".toList) (fun _ => rfl) ⟨'t', _, rfl, by decide⟩ fun c rest hc => ?_
    simp [readWord?, words, List.find?, List.isPrefixOf, hc]
    rfl
  | false =>
    refine readsBack_word (w := "false".toList) (fun _ => rfl) ⟨'f', _, rfl, by decide⟩ fun c rest hc => ?_
    simp [readWord?, words, List.find?, List.isPrefixOf, hc]
    rfl

/-- No word begins with a digit, or with a sign and a digit. -/
theorem readWord?_eq_none {c : Cursor} {ch : Char} {cs : List Char} (hc : c.rest = ch :: cs)
    (hch : ch.isDigit = true ∨ ch = '-' ∧ ∃ d ds, cs = d :: ds ∧ d.isDigit = true) : readWord? c = none := by
  have hne : ∀ {d : Char}, d.isDigit = true → ∀ x : Char, x.isDigit = false → (x == d) = false := fun hd x hx => by
    rw [beq_eq_false_iff_ne]
    rintro rfl
    rw [hd] at hx
    cases hx
  rcases hch with hch | ⟨rfl, d, ds, rfl, hd⟩
  · simp [readWord?, words, List.find?, List.isPrefixOf, hc, hne hch]
  · simp [readWord?, words, List.find?, List.isPrefixOf, hc, hne hd]

theorem readsBack_int {n : Int} (h : (Nat.toDigits 10 n.natAbs).length ≤ Text.maxDigits) : ReadsBack (.int n) := by
  intro depth fuel c rest hfuel hc hrest
  rw [write] at hfuel hc
  obtain ⟨d, ds, hdigits, hd⟩ := exists_first_toDigits n.natAbs
  obtain ⟨ch, cs, hcs, hch⟩ : ∃ ch cs, c.rest = ch :: cs ∧
      (ch.isDigit = true ∨ ch = '-' ∧ ∃ d ds, cs = d :: ds ∧ d.isDigit = true) := by
    rw [hc, writeInt, hdigits]
    split
    · exact ⟨'-', _, rfl, .inr ⟨rfl, d, _, rfl, hd⟩⟩
    · exact ⟨d, _, rfl, .inl hd⟩
  have hne : ∀ x : Char, x.isDigit = false → x ≠ '-' → ch ≠ x := by
    rintro x hx hminus rfl
    rcases hch with hch | ⟨rfl, -⟩
    · rw [hch] at hx
      cases hx
    · exact hminus rfl
  obtain ⟨fuel, rfl⟩ := Nat.exists_eq_add_one_of_ne_zero (n := fuel) (by
    rintro rfl
    rw [writeInt, hdigits] at hfuel
    split at hfuel <;> simp at hfuel)
  rw [readValue_other hcs (hne _ rfl (by decide)) (hne _ rfl (by decide)) (hne _ rfl (by decide)),
    readWord?_eq_none hcs hch]
  exact readNumber_written hc h hrest

theorem readsBack_str (s : String) : ReadsBack (.str s) := by
  intro depth fuel c rest hfuel hc _
  obtain ⟨fuel, rfl⟩ := Nat.exists_eq_add_one_of_ne_zero (n := fuel) (by
    rw [write, writeText, List.length_cons] at hfuel
    omega)
  rw [write] at hc
  have hread := readText_written hc
  rw [readValue.eq_def]
  dsimp only
  rw [hc, writeText]
  exact hread

/-! ## Arrays and objects -/

theorem IsFirst.notBlank {ch : Char} (h : IsFirst ch) : NotBlank ch := by
  refine ⟨?_, ?_, ?_, ?_⟩ <;> rintro rfl <;> simp [IsFirst] at h

theorem IsFirst.ne_close {ch : Char} (h : IsFirst ch) : ch ≠ ']' := by
  rintro rfl
  simp [IsFirst] at h

section
variable {fuel : Nat} {c : Cursor} {ch : Char} {bs more rest : List Char} {v x : Json} {k : String} {before : Members}

theorem readValue_bracket {cs : List Char} (hc : c.rest = '[' :: cs) :
    readValue (fuel + 1) c = match (c.skip 1).skipBlanks.rest with
      | ']' :: _ => .ok (.arr [], (c.skip 1).skipBlanks.skip 1)
      | _ => readItems fuel [] (c.skip 1).skipBlanks := by
  rw [readValue.eq_def]
  dsimp only
  rw [hc]
  rfl

theorem readValue_brace {cs : List Char} (hc : c.rest = '\x7b' :: cs) :
    readValue (fuel + 1) c = match (c.skip 1).skipBlanks.rest with
      | '\x7d' :: _ => .ok (.obj [], (c.skip 1).skipBlanks.skip 1)
      | _ => readMembers fuel [] (c.skip 1).skipBlanks := by
  rw [readValue.eq_def]
  dsimp only
  rw [hc]
  rfl

theorem reads_emptyArray (hc : c.rest = '[' :: ']' :: rest) : Reads (readValue (fuel + 1) c) (.arr []) rest := by
  have hinner : (c.skip 1).skipBlanks.rest = ']' :: rest :=
    rest_skipBlanks_cons (by simp [Cursor.skip, hc]) (by decide)
  refine ⟨(c.skip 1).skipBlanks.skip 1, by rw [Cursor.skip, hinner]; rfl, ?_⟩
  rw [readValue_bracket hc, hinner]
  rfl

theorem reads_array (hc : c.rest = '[' :: (bs ++ ch :: more)) (hbs : IsBlanks bs) (hch : NotBlank ch) (hopen : ch ≠ ']')
    (hitems : ∀ c' : Cursor, c'.rest = ch :: more → Reads (readItems fuel [] c') x rest) :
    Reads (readValue (fuel + 1) c) x rest := by
  have hinner : (c.skip 1).skipBlanks.rest = ch :: more := rest_skipBlanks (by simp [Cursor.skip, hc]) hbs hch
  rw [readValue_bracket hc, hinner]
  split
  · rename_i heq
    cases heq
    exact absurd rfl hopen
  · exact hitems _ hinner

theorem reads_items_last (acc : List Json) (hvalue : Reads (readValue fuel c) v (bs ++ ']' :: rest))
    (hbs : IsBlanks bs) : Reads (readItems (fuel + 1) acc c) (.arr (v :: acc).reverse) rest := by
  rw [readItems.eq_def]
  refine hvalue.bind fun after hafter => ?_
  have hnext := rest_skipBlanks hafter hbs (by decide)
  refine ⟨after.skipBlanks.skip 1, by rw [Cursor.skip, hnext]; rfl, ?_⟩
  dsimp only
  rw [hnext]
  rfl

theorem reads_items_more (acc : List Json) (hvalue : Reads (readValue fuel c) v (',' :: (bs ++ ch :: more)))
    (hbs : IsBlanks bs) (hch : NotBlank ch)
    (hitems : ∀ c' : Cursor, c'.rest = ch :: more → Reads (readItems fuel (v :: acc) c') x rest) :
    Reads (readItems (fuel + 1) acc c) x rest := by
  rw [readItems.eq_def]
  refine hvalue.bind fun after hafter => ?_
  have hnext := rest_skipBlanks_cons hafter (by decide)
  have hitem : (after.skipBlanks.skip 1).skipBlanks.rest = ch :: more :=
    rest_skipBlanks (by rw [Cursor.skip, hnext]; rfl) hbs hch
  dsimp only
  rw [hnext]
  exact hitems _ hitem

theorem reads_emptyObject (hc : c.rest = '\x7b' :: '\x7d' :: rest) : Reads (readValue (fuel + 1) c) (.obj []) rest := by
  have hinner : (c.skip 1).skipBlanks.rest = '\x7d' :: rest :=
    rest_skipBlanks_cons (by simp [Cursor.skip, hc]) (by decide)
  refine ⟨(c.skip 1).skipBlanks.skip 1, by rw [Cursor.skip, hinner]; rfl, ?_⟩
  rw [readValue_brace hc, hinner]
  rfl

theorem reads_object (hc : c.rest = '\x7b' :: (bs ++ '"' :: more)) (hbs : IsBlanks bs)
    (hmembers : ∀ c' : Cursor, c'.rest = '"' :: more → Reads (readMembers fuel [] c') x rest) :
    Reads (readValue (fuel + 1) c) x rest := by
  have hinner : (c.skip 1).skipBlanks.rest = '"' :: more := rest_skipBlanks (by simp [Cursor.skip, hc]) hbs (by decide)
  rw [readValue_brace hc, hinner]
  exact hmembers _ hinner

/-- A member is read up to what follows its value. -/
theorem reads_member (hc : c.rest = writeText k ++ ':' :: ' ' :: ch :: more) (hch : NotBlank ch)
    (hmember : ∀ c' : Cursor, c'.rest = ch :: more → Reads (do
      let (value, afterValue) ← readValue fuel c'
      let acc := before.put k value
      let next := afterValue.skipBlanks
      match next.rest with
      | '\x7d' :: _ => return (.obj acc, next.skip 1)
      | ',' :: _ => readMembers fuel acc (next.skip 1).skipBlanks
      | _ => next.fail .expectingComma) x rest) :
    Reads (readMembers (fuel + 1) before c) x rest := by
  have hspace : IsBlanks [' '] := fun c hc => .inl (List.mem_singleton.1 hc)
  have hkey := readText_written hc
  rw [readMembers.eq_def]
  dsimp only
  rw [hc, writeText]
  refine hkey.bind fun after hafter => ?_
  have hcolon := rest_skipBlanks_cons hafter (by decide)
  have hvalue : (after.skipBlanks.skip 1).skipBlanks.rest = ch :: more :=
    rest_skipBlanks (by rw [Cursor.skip, hcolon]; exact List.singleton_append.symm) hspace hch
  dsimp only
  rw [hcolon]
  exact hmember _ hvalue

theorem reads_members_last (before : Members) (hc : c.rest = writeText k ++ ':' :: ' ' :: ch :: more)
    (hch : NotBlank ch)
    (hvalue : ∀ c' : Cursor, c'.rest = ch :: more → Reads (readValue fuel c') v (bs ++ '\x7d' :: rest))
    (hbs : IsBlanks bs) :
    Reads (readMembers (fuel + 1) before c) (.obj (before.put k v)) rest := by
  refine reads_member hc hch fun c' hc' => (hvalue c' hc').bind fun after hafter => ?_
  have hnext := rest_skipBlanks hafter hbs (by decide)
  refine ⟨after.skipBlanks.skip 1, by rw [Cursor.skip, hnext]; rfl, ?_⟩
  dsimp only
  rw [hnext]
  rfl

theorem reads_members_more (before : Members) {more' : List Char}
    (hc : c.rest = writeText k ++ ':' :: ' ' :: ch :: more) (hch : NotBlank ch)
    (hvalue : ∀ c' : Cursor, c'.rest = ch :: more → Reads (readValue fuel c') v (',' :: (bs ++ '"' :: more')))
    (hbs : IsBlanks bs)
    (hmembers : ∀ c' : Cursor, c'.rest = '"' :: more' → Reads (readMembers fuel (before.put k v) c') x rest) :
    Reads (readMembers (fuel + 1) before c) x rest := by
  refine reads_member hc hch fun c' hc' => (hvalue c' hc').bind fun after hafter => ?_
  have hnext := rest_skipBlanks_cons hafter (by decide)
  have hmember : (after.skipBlanks.skip 1).skipBlanks.rest = '"' :: more' :=
    rest_skipBlanks (by rw [Cursor.skip, hnext]; rfl) hbs (by decide)
  dsimp only
  rw [hnext]
  exact hmembers _ hmember

/-- What follows a written value in an array. -/
theorem isBehind_items (vs : List Json) (depth depth' : Nat) (cs : List Char) :
    IsBehind (writeItems depth vs ++ (lineStart depth' ++ cs)) := by
  cases vs with
  | nil => exact .inr ⟨_, .inr rfl⟩
  | cons v vs => exact .inr ⟨_, .inl rfl⟩

theorem isBehind_members (ms : Members) (depth depth' : Nat) (cs : List Char) :
    IsBehind (writeMembers depth ms ++ (lineStart depth' ++ cs)) := by
  cases ms with
  | nil => exact .inr ⟨_, .inr rfl⟩
  | cons m ms => exact .inr ⟨_, .inl rfl⟩

/-- The items of a written array are read one after another up to its bracket. -/
theorem readItems_written (depth depth' : Nat) {vs : List Json} :
    ∀ {v : Json} {fuel : Nat} (acc : List Json) {c : Cursor},
    (∀ x ∈ v :: vs, x.IsPlain ∧ ReadsBack x) → (write depth v ++ writeItems depth vs).length < fuel →
      c.rest = write depth v ++ (writeItems depth vs ++ (lineStart depth' ++ ']' :: rest)) →
        Reads (readItems fuel acc c) (.arr (acc.reverse ++ v :: vs)) rest := by
  induction vs with
  | nil =>
    intro v fuel acc c hparts hfuel hc
    obtain ⟨fuel, rfl⟩ := Nat.exists_eq_add_one_of_ne_zero (Nat.ne_zero_of_lt hfuel)
    rw [List.length_append] at hfuel
    have hvalue := (hparts v List.mem_cons_self).2 depth fuel (by omega) hc (isBehind_items [] depth depth' _)
    simpa using reads_items_last acc hvalue (isBlanks_lineStart depth')
  | cons v' vs ih =>
    intro v fuel acc c hparts hfuel hc
    obtain ⟨fuel, rfl⟩ := Nat.exists_eq_add_one_of_ne_zero (Nat.ne_zero_of_lt hfuel)
    obtain ⟨hv, hvs⟩ := List.forall_mem_cons.1 hparts
    rw [List.length_append] at hfuel
    have hvalue := hv.2 depth fuel (by omega) hc (isBehind_items (v' :: vs) depth depth' _)
    obtain ⟨ch, cs, hwrite, hch⟩ := exists_first_write (hvs v' List.mem_cons_self).1 depth
    have hitems : writeItems depth (v' :: vs) ++ (lineStart depth' ++ ']' :: rest) =
        ',' :: (lineStart depth ++ ch :: (cs ++ (writeItems depth vs ++ (lineStart depth' ++ ']' :: rest)))) := by
      simp [writeItems, hwrite]
    refine reads_items_more acc (hitems ▸ hvalue) (isBlanks_lineStart depth) hch.notBlank fun c' hc' => ?_
    have hshort : (write depth v' ++ writeItems depth vs).length < fuel := by
      simp only [writeItems, List.length_cons, List.length_append] at hfuel ⊢
      omega
    simpa using ih (v :: acc) hvs hshort (by simpa [hwrite] using hc')

theorem readsBack_arr {vs : List Json} (h : ∀ v ∈ vs, v.IsPlain ∧ ReadsBack v) : ReadsBack (.arr vs) := by
  intro depth fuel c rest hfuel hc _
  cases vs with
  | nil =>
    obtain ⟨fuel, rfl⟩ := Nat.exists_eq_add_one_of_ne_zero (n := fuel) (by simp [write] at hfuel; omega)
    exact reads_emptyArray hc
  | cons v vs =>
    rw [write] at hfuel hc
    obtain ⟨fuel, rfl⟩ := Nat.exists_eq_add_one_of_ne_zero (n := fuel) (by simp at hfuel; omega)
    obtain ⟨ch, cs, hwrite, hch⟩ := exists_first_write (h v List.mem_cons_self).1 (depth + 1)
    have hopen : c.rest = '[' :: (lineStart (depth + 1) ++
        ch :: (cs ++ (writeItems (depth + 1) vs ++ (lineStart depth ++ ']' :: rest)))) := by
      simpa [hwrite] using hc
    refine reads_array hopen (isBlanks_lineStart _) hch.notBlank hch.ne_close fun c' hc' => ?_
    have hshort : (write (depth + 1) v ++ writeItems (depth + 1) vs).length < fuel := by
      simp only [List.length_cons, List.length_append, List.length_nil] at hfuel ⊢
      omega
    exact readItems_written (depth + 1) depth [] h hshort (by simpa [hwrite] using hc')

theorem not_mem_keys {m : String × Json} {ms : Members} (h : ((before ++ m :: ms).map (·.1)).Nodup) :
    m.1 ∉ before.map (·.1) := by
  rw [List.map_append, List.nodup_append] at h
  exact fun hmem => h.2.2 _ hmem _ (by simp) rfl

/-- A text as it is written, behind its opening quote. -/
def textBody (s : String) : List Char := s.toList.flatMap escapeChar ++ ['"']

theorem writeText_eq (s : String) : writeText s = '"' :: textBody s := rfl

/-- The members of a written object are read one after another up to its brace, and put after those there are. -/
theorem readMembers_written (depth depth' : Nat) {ms : Members} :
    ∀ {m : String × Json} {fuel : Nat} (before : Members) {c : Cursor},
    (∀ x ∈ m :: ms, x.2.IsPlain ∧ ReadsBack x.2) → ((before ++ m :: ms).map (·.1)).Nodup →
      (write depth m.2 ++ writeMembers depth ms).length < fuel →
        c.rest = writeText m.1 ++ ':' :: ' ' :: (write depth m.2 ++
          (writeMembers depth ms ++ (lineStart depth' ++ '\x7d' :: rest))) →
        Reads (readMembers fuel before c) (.obj (before ++ m :: ms)) rest := by
  induction ms with
  | nil =>
    intro m fuel before c hparts hkeys hfuel hc
    obtain ⟨fuel, rfl⟩ := Nat.exists_eq_add_one_of_ne_zero (Nat.ne_zero_of_lt hfuel)
    rw [List.length_append] at hfuel
    have hm := hparts m List.mem_cons_self
    obtain ⟨ch, cs, hwrite, hch⟩ := exists_first_write hm.1 depth
    have hvalue := fun (c' : Cursor) hc' => hm.2 depth fuel (c := c') (by omega) hc'
      (isBehind_members [] depth depth' ('\x7d' :: rest))
    rw [hwrite] at hc hvalue
    rw [← put_of_not_mem (not_mem_keys hkeys)]
    exact reads_members_last before hc hch.notBlank hvalue (isBlanks_lineStart depth')
  | cons m' ms ih =>
    intro m fuel before c hparts hkeys hfuel hc
    obtain ⟨fuel, rfl⟩ := Nat.exists_eq_add_one_of_ne_zero (Nat.ne_zero_of_lt hfuel)
    obtain ⟨hm, hms⟩ := List.forall_mem_cons.1 hparts
    rw [List.length_append] at hfuel
    obtain ⟨ch, cs, hwrite, hch⟩ := exists_first_write hm.1 depth
    have hvalue := fun (c' : Cursor) hc' => hm.2 depth fuel (c := c') (by omega) hc'
      (isBehind_members (m' :: ms) depth depth' ('\x7d' :: rest))
    have hmembers : writeMembers depth (m' :: ms) ++ (lineStart depth' ++ '\x7d' :: rest) =
        ',' :: (lineStart depth ++ '"' :: (textBody m'.1 ++ ':' :: ' ' :: (write depth m'.2 ++
          (writeMembers depth ms ++ (lineStart depth' ++ '\x7d' :: rest))))) := by
      simp [writeMembers, writeText_eq]
    rw [hwrite, hmembers] at hc hvalue
    refine reads_members_more before hc hch.notBlank hvalue (isBlanks_lineStart depth) fun c' hc' => ?_
    have hshort : (write depth m'.2 ++ writeMembers depth ms).length < fuel := by
      simp only [writeMembers, List.length_cons, List.length_append] at hfuel ⊢
      omega
    rw [put_of_not_mem (not_mem_keys hkeys)]
    simpa using ih (before ++ [m]) hms (by simpa using hkeys) hshort hc'

theorem readsBack_obj {ms : Members} (hkeys : (ms.map (·.1)).Nodup) (h : ∀ m ∈ ms, m.2.IsPlain ∧ ReadsBack m.2) :
    ReadsBack (.obj ms) := by
  intro depth fuel c rest hfuel hc _
  cases ms with
  | nil =>
    obtain ⟨fuel, rfl⟩ := Nat.exists_eq_add_one_of_ne_zero (n := fuel) (by simp [write] at hfuel; omega)
    exact reads_emptyObject hc
  | cons m ms =>
    rw [write] at hfuel hc
    obtain ⟨fuel, rfl⟩ := Nat.exists_eq_add_one_of_ne_zero (n := fuel) (by simp at hfuel; omega)
    have hopen : c.rest = '\x7b' :: (lineStart (depth + 1) ++ '"' :: (textBody m.1 ++ ':' :: ' ' ::
        (write (depth + 1) m.2 ++ (writeMembers (depth + 1) ms ++ (lineStart depth ++ '\x7d' :: rest))))) := by
      simpa [writeText_eq] using hc
    have hshort : (write (depth + 1) m.2 ++ writeMembers (depth + 1) ms).length < fuel := by
      simp only [List.length_cons, List.length_append, List.length_nil] at hfuel ⊢
      omega
    exact reads_object hopen (isBlanks_lineStart _) fun c' hc' =>
      readMembers_written (depth + 1) depth [] h hkeys hshort hc'

end

theorem readsBack_of_isPlain {v : Json} (h : v.IsPlain) : ReadsBack v := by
  induction h with
  | null => exact readsBack_null
  | bool b => exact readsBack_bool b
  | int h => exact readsBack_int h
  | str s => exact readsBack_str s
  | arr h ih => exact readsBack_arr fun v hv => ⟨h v hv, ih v hv⟩
  | obj hkeys h ih => exact readsBack_obj hkeys fun m hm => ⟨h m hm, ih m hm⟩

theorem isFinite_of_isPlain {v : Json} (h : v.IsPlain) : v.isFinite = true := by
  induction h with
  | null | bool | int | str => rfl
  | arr _ ih => exact isFinite_arr.2 ih
  | obj _ _ ih => exact isFinite_obj.2 ih

/-- The text of a value reads as the value. -/
theorem read_render {v : Json} (h : v.IsPlain) : read v.render = .ok v := by
  obtain ⟨ch, cs, hwrite, hch⟩ := exists_first_write h 0
  have hmark : ch ≠ '\uFEFF' := by
    rintro rfl
    simp [IsFirst] at hch
  have hstart : (Cursor.mk 0 (write 0 v)).skipBlanks.rest = write 0 v ++ [] := by
    rw [List.append_nil, hwrite]
    exact rest_skipBlanks_cons rfl hch.notBlank
  obtain ⟨after, hafter, hread⟩ := readsBack_of_isPlain h 0 (2 * (write 0 v).length + 4) (by omega) hstart (.inl rfl)
  have hend : after.skipBlanks.rest = [] := by
    rw [Cursor.skipBlanks, Cursor.skipWhile, hafter]
    rfl
  rw [read, render, String.toList_ofList]
  dsimp only
  rw [if_neg (by simpa [hwrite] using hmark), hread]
  dsimp only [bind, Except.bind]
  rw [hend]
  rfl

/-- A value of nulls, booleans, whole numbers that are not too long, texts, arrays, and objects without a key given
twice is written as a document, which reads as this value, with its members in their order, and is the text of no other
such value. -/
theorem written_reads_back {v : Json} (h : v.IsPlain) :
    IsDocument v.render.toList ∧ read v.render = .ok v ∧ ∀ w : Json, w.IsPlain → w.render = v.render → w = v := by
  refine ⟨(isDocument_render_iff v).2 (isFinite_of_isPlain h), read_render h, fun w hw heq => ?_⟩
  have hread := read_render hw
  rw [heq, read_render h] at hread
  exact (Except.ok.inj hread).symm

/-- A record with an empty array, an escape of each kind, and a key that stands for a number. -/
theorem written_reads_back_nested :
    let v := Json.obj [("10", .arr []), ("", .arr [.int (-10), .null, .str "\"\\\n\x01/é"]),
      ("a", .obj [("a", .bool false)])]
    v.IsPlain ∧ read v.render = .ok v := by
  have h : IsPlain (.obj [("10", .arr []), ("", .arr [.int (-10), .null, .str "\"\\\n\x01/é"]),
      ("a", .obj [("a", .bool false)])]) := by
    refine .obj (by decide) ?_
    rintro m (_ | ⟨_, _ | ⟨_, _ | ⟨_, ⟨⟩⟩⟩⟩)
    · exact .arr nofun
    · refine .arr ?_
      rintro v (_ | ⟨_, _ | ⟨_, _ | ⟨_, ⟨⟩⟩⟩⟩)
      · exact .int (by decide)
      · exact .null
      · exact .str _
    · refine .obj (by decide) ?_
      rintro m (_ | ⟨_, ⟨⟩⟩)
      exact .bool false
  exact ⟨h, (written_reads_back h).2.1⟩

end BrowserPlan.Json
