import BrowserPlan.Text.Hex

/-!
# The grammar of JSON texts

The grammar of RFC 8259, on lists of characters. Somebody who reads a document aloud, but for its strings,
never says an `N` or an `I` (`IsDocument.silent`).
-/
namespace BrowserPlan.Json

/-! ## Grammar -/

/-- Blanks between the parts of a value. -/
def IsBlanks (cs : List Char) : Prop := ∀ c ∈ cs, c = ' ' ∨ c = '\t' ∨ c = '\n' ∨ c = '\r'

/-- One or more digits. -/
def IsDigits (cs : List Char) : Prop := cs ≠ [] ∧ ∀ c ∈ cs, c.isDigit = true

/-- A whole number, with no zero in front. -/
inductive IsWhole : List Char → Prop where
  | zero : IsWhole ['0']
  | digits {d rest} (hd : d.isDigit = true) (hnot : d ≠ '0') (hrest : ∀ c ∈ rest, c.isDigit = true) :
    IsWhole (d :: rest)

/-- A fraction, if there is any. -/
inductive IsFraction : List Char → Prop where
  | none : IsFraction []
  | some {ds} (h : IsDigits ds) : IsFraction ('.' :: ds)

/-- An exponent, if there is any. -/
inductive IsExponent : List Char → Prop where
  | none : IsExponent []
  | some {e sign ds} (he : e = 'e' ∨ e = 'E') (hsign : sign = [] ∨ sign = ['+'] ∨ sign = ['-']) (h : IsDigits ds) :
    IsExponent (e :: sign ++ ds)

inductive IsNumber : List Char → Prop where
  | mk {sign whole fraction exponent} (hsign : sign = [] ∨ sign = ['-']) (hwhole : IsWhole whole)
    (hfraction : IsFraction fraction) (hexponent : IsExponent exponent) :
    IsNumber (sign ++ whole ++ fraction ++ exponent)

/-- What stands between the quotes of a string. -/
inductive IsChars : List Char → Prop where
  | nil : IsChars []
  | plain {c rest} (hc : 0x20 ≤ c.toNat) (hquote : c ≠ '"') (hslash : c ≠ '\\') (h : IsChars rest) : IsChars (c :: rest)
  | escape {c rest} (hc : c ∈ ['"', '\\', '/', 'b', 'f', 'n', 'r', 't']) (h : IsChars rest) : IsChars ('\\' :: c :: rest)
  | code {cs rest} (hlength : cs.length = 4) (hcs : ∀ c ∈ cs, (Text.hexValue? c).isSome = true) (h : IsChars rest) :
    IsChars ('\\' :: 'u' :: cs ++ rest)

/-- A string. -/
inductive IsString : List Char → Prop where
  | mk {cs} (h : IsChars cs) : IsString ('"' :: (cs ++ ['"']))

mutual

inductive IsValue : List Char → Prop where
  | null : IsValue "null".toList
  | true : IsValue "true".toList
  | false : IsValue "false".toList
  | number {cs} (h : IsNumber cs) : IsValue cs
  | string {cs} (h : IsString cs) : IsValue cs
  | emptyArray {bs} (hbs : IsBlanks bs) : IsValue ('[' :: (bs ++ [']']))
  | array {cs} (h : IsElements cs) : IsValue ('[' :: (cs ++ [']']))
  | emptyObject {bs} (hbs : IsBlanks bs) : IsValue ('{' :: (bs ++ ['}']))
  | object {cs} (h : IsMembers cs) : IsValue ('{' :: (cs ++ ['}']))

/-- The elements of an array, with the commas between them. -/
inductive IsElements : List Char → Prop where
  | last {as cs bs} (has : IsBlanks as) (h : IsValue cs) (hbs : IsBlanks bs) : IsElements (as ++ cs ++ bs)
  | more {as cs bs rest} (has : IsBlanks as) (h : IsValue cs) (hbs : IsBlanks bs) (hrest : IsElements rest) :
    IsElements (as ++ cs ++ bs ++ ',' :: rest)

/-- The members of an object, with the commas between them. -/
inductive IsMembers : List Char → Prop where
  | last {as key bs ds cs es} (has : IsBlanks as) (hkey : IsString key) (hbs : IsBlanks bs) (hds : IsBlanks ds)
    (h : IsValue cs) (hes : IsBlanks es) : IsMembers (as ++ key ++ bs ++ ':' :: (ds ++ cs ++ es))
  | more {as key bs ds cs es rest} (has : IsBlanks as) (hkey : IsString key) (hbs : IsBlanks bs) (hds : IsBlanks ds)
    (h : IsValue cs) (hes : IsBlanks es) (hrest : IsMembers rest) :
    IsMembers (as ++ key ++ bs ++ ':' :: (ds ++ cs ++ es ++ ',' :: rest))

end

/-- A document: a value between blanks. -/
inductive IsDocument : List Char → Prop where
  | mk {as cs bs} (has : IsBlanks as) (h : IsValue cs) (hbs : IsBlanks bs) : IsDocument (as ++ cs ++ bs)

/-! ## Reading aloud -/

/-- Where a reader is in a text. -/
inductive Place where
  | outside
  | inString
  /-- Behind a backslash. -/
  | escaped

/-- Somebody who reads a text aloud: where he is, and whether he has said an `N` or an `I` outside of strings. -/
structure Reader where
  place : Place
  loud : Bool

namespace Reader

/-- Reads one more character. -/
def read (s : Reader) (c : Char) : Reader :=
  match s.place with
  | .outside => if c = '"' then { s with place := .inString } else { s with loud := s.loud || (c == 'N' || c == 'I') }
  | .inString => if c = '"' then { s with place := .outside } else if c = '\\' then { s with place := .escaped } else s
  | .escaped => { s with place := .inString }

/-- Reads a text. -/
def readAll (s : Reader) (cs : List Char) : Reader := cs.foldl read s

theorem readAll_append (s : Reader) (cs ds : List Char) : s.readAll (cs ++ ds) = (s.readAll cs).readAll ds :=
  List.foldl_append

theorem readAll_cons (s : Reader) (c : Char) (cs : List Char) : s.readAll (c :: cs) = (s.read c).readAll cs := rfl

end Reader

/-- Nothing is said while the text is read, from outside of strings to outside of strings. -/
def Silent (cs : List Char) : Prop := ∀ b, Reader.readAll ⟨.outside, b⟩ cs = ⟨.outside, b⟩

/-- A character that nobody says and that begins no string. -/
def IsQuiet (c : Char) : Prop := c ≠ '"' ∧ c ≠ 'N' ∧ c ≠ 'I'

instance (c : Char) : Decidable (IsQuiet c) := inferInstanceAs (Decidable (_ ∧ _ ∧ _))

/-- All these characters are quiet. -/
def AllQuiet (cs : List Char) : Prop := ∀ c ∈ cs, IsQuiet c

instance (cs : List Char) : Decidable (AllQuiet cs) := List.decidableBAll IsQuiet cs

section
variable {cs ds : List Char}

theorem Silent.nil : Silent [] := fun _ => rfl

theorem Silent.append (h : Silent cs) (h' : Silent ds) : Silent (cs ++ ds) := fun b => by
  rw [Reader.readAll_append, h, h']

theorem Silent.cons {c : Char} (hc : IsQuiet c) (h : Silent cs) : Silent (c :: cs) := fun b => by
  obtain ⟨hquote, hn, hi⟩ := hc
  rw [Reader.readAll_cons, Reader.read]
  simp only [hquote, if_false, beq_eq_false_iff_ne.2 hn, beq_eq_false_iff_ne.2 hi, Bool.or_false]
  exact h b

theorem silent_of_quiet (h : AllQuiet cs) : Silent cs := by
  induction cs with
  | nil => exact .nil
  | cons c cs ih => exact .cons (h c List.mem_cons_self) (ih fun d hd => h d (List.mem_cons_of_mem _ hd))

/-! ### Documents are silent -/

theorem IsBlanks.silent (h : IsBlanks cs) : Silent cs := silent_of_quiet fun c hc => by
  rcases h c hc with rfl | rfl | rfl | rfl <;> decide

theorem isQuiet_of_isDigit {c : Char} (h : c.isDigit = true) : IsQuiet c := by
  refine ⟨?_, ?_, ?_⟩ <;> rintro rfl <;> cases h

theorem IsNumber.silent (h : IsNumber cs) : Silent cs := by
  have hdigits : ∀ {ds : List Char}, (∀ c ∈ ds, c.isDigit = true) → Silent ds := fun h =>
    silent_of_quiet fun c hc => isQuiet_of_isDigit (h c hc)
  obtain ⟨hsign, hwhole, hfraction, hexponent⟩ := h
  refine Silent.append (Silent.append (Silent.append ?_ ?_) ?_) ?_
  · rcases hsign with rfl | rfl <;> exact silent_of_quiet (by decide)
  · cases hwhole with
    | zero => exact silent_of_quiet (by decide)
    | digits hd _ hrest => exact .cons (isQuiet_of_isDigit hd) (hdigits hrest)
  · cases hfraction with
    | none => exact .nil
    | some h => exact .cons (by decide) (hdigits h.2)
  · cases hexponent with
    | none => exact .nil
    | some he hsign h =>
      refine .cons ?_ (Silent.append ?_ (hdigits h.2))
      · rcases he with rfl | rfl <;> decide
      · rcases hsign with rfl | rfl | rfl <;> exact silent_of_quiet (by decide)

theorem IsChars.readAll (h : IsChars cs) (b : Bool) : Reader.readAll ⟨.inString, b⟩ cs = ⟨.inString, b⟩ := by
  induction h with
  | nil => rfl
  | plain hc hquote hslash _ ih =>
    rw [Reader.readAll_cons, Reader.read]
    simp only [hquote, hslash, if_false]
    exact ih
  | escape hc _ ih => exact ih
  | @code cs rest hlength hcs _ ih =>
    have hplain : ∀ ds : List Char, (∀ c ∈ ds, (Text.hexValue? c).isSome = true) →
        Reader.readAll ⟨.inString, b⟩ ds = ⟨.inString, b⟩ := by
      intro ds hds
      induction ds with
      | nil => rfl
      | cons c ds ih =>
        obtain ⟨hc, hds⟩ := List.forall_mem_cons.1 hds
        have hquote : c ≠ '"' := by rintro rfl; cases hc
        have hslash : c ≠ '\\' := by rintro rfl; cases hc
        rw [Reader.readAll_cons, Reader.read]
        simp only [hquote, hslash, if_false]
        exact ih hds
    change Reader.readAll ⟨.inString, b⟩ (cs ++ rest) = _
    rw [Reader.readAll_append, hplain cs hcs, ih]

theorem IsString.silent (h : IsString cs) : Silent cs := by
  obtain ⟨h⟩ := h
  intro b
  rw [Reader.readAll_cons]
  change Reader.readAll ⟨.inString, b⟩ (_ ++ ['"']) = _
  rw [Reader.readAll_append, h.readAll]
  rfl

end

mutual

theorem IsValue.silent {cs : List Char} (h : IsValue cs) : Silent cs := by
  match h with
  | .null | .true | .false => exact silent_of_quiet (by decide)
  | .number h => exact h.silent
  | .string h => exact h.silent
  | .emptyArray hbs => exact .cons (by decide) (hbs.silent.append (.cons (by decide) .nil))
  | .array h => exact .cons (by decide) (h.silent.append (.cons (by decide) .nil))
  | .emptyObject hbs => exact .cons (by decide) (hbs.silent.append (.cons (by decide) .nil))
  | .object h => exact .cons (by decide) (h.silent.append (.cons (by decide) .nil))

theorem IsElements.silent {cs : List Char} (h : IsElements cs) : Silent cs := by
  match h with
  | .last has h hbs => exact (has.silent.append h.silent).append hbs.silent
  | .more has h hbs hrest =>
    exact ((has.silent.append h.silent).append hbs.silent).append (.cons (by decide) hrest.silent)

theorem IsMembers.silent {cs : List Char} (h : IsMembers cs) : Silent cs := by
  match h with
  | .last has hkey hbs hds h hes =>
    exact ((has.silent.append hkey.silent).append hbs.silent).append
      (.cons (by decide) ((hds.silent.append h.silent).append hes.silent))
  | .more has hkey hbs hds h hes hrest =>
    exact ((has.silent.append hkey.silent).append hbs.silent).append
      (.cons (by decide) (((hds.silent.append h.silent).append hes.silent).append (.cons (by decide) hrest.silent)))

end

theorem IsDocument.silent {cs : List Char} (h : IsDocument cs) : Silent cs := by
  obtain ⟨has, h, hbs⟩ := h
  exact (has.silent.append h.silent).append hbs.silent

end BrowserPlan.Json
