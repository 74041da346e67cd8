import BrowserPlan.Json.Writer
import BrowserPlan.Proofs.Json.Grammar

/-!
# Written values are documents

A written value is a document of RFC 8259 if all its floats are finite, and only then
(`isDocument_render_iff`): a float that is infinite or no number is written as a word, and documents have
no such words.
-/
namespace BrowserPlan.Json

open Decimal

/-! ## Numbers -/

theorem isDigit_toDigits {n : Nat} {c : Char} (h : c ∈ Nat.toDigits 10 n) : c.isDigit = true :=
  Nat.isDigit_of_mem_toDigits (by decide) (by decide) h

/-- The digits of a positive number do not begin with a zero. -/
theorem exists_toDigits {n : Nat} (h : 0 < n) : ∃ d rest, Nat.toDigits 10 n = d :: rest ∧ d ≠ '0' := by
  have hone : ∀ m, m < 10 → 0 < m → Nat.digitChar m ≠ '0' := by decide
  induction n using Nat.strongRecOn with
  | _ n ih =>
    by_cases hn : n < 10
    · exact ⟨n.digitChar, [], Nat.toDigits_of_lt_base hn, hone n hn h⟩
    · obtain ⟨d, rest, hdigits, hd⟩ := ih (n / 10) (by omega) (by omega)
      exact ⟨d, rest ++ [(n % 10).digitChar], by rw [Nat.toDigits_of_base_le (by decide) (by omega), hdigits]; rfl, hd⟩

theorem isWhole_toDigits (n : Nat) : IsWhole (Nat.toDigits 10 n) := by
  rcases Nat.eq_zero_or_pos n with rfl | hn
  · exact .zero
  · obtain ⟨d, rest, hdigits, hd⟩ := exists_toDigits hn
    have hall : ∀ c ∈ d :: rest, c.isDigit = true := fun c hc => isDigit_toDigits (hdigits ▸ hc)
    obtain ⟨hfirst, hrest⟩ := List.forall_mem_cons.1 hall
    exact hdigits ▸ .digits hfirst hd hrest

theorem isNumber_writeInt (n : Int) : IsNumber (writeInt n) := by
  have hwhole := isWhole_toDigits n.natAbs
  rw [writeInt]
  split
  · simpa using IsNumber.mk (.inr rfl) hwhole .none .none
  · simpa using IsNumber.mk (.inl rfl) hwhole .none .none

section
variable {d : Char} {rest : List Char} {lead : Int}

theorem isNumber_pointed {sign : List Char} (hsign : sign = [] ∨ sign = ['-']) (hd : d.isDigit = true) (hnot : d ≠ '0')
    (hrest : ∀ c ∈ rest, c.isDigit = true) : IsNumber (sign ++ pointed (d :: rest) lead) := by
  have hzeros : ∀ n, ∀ c ∈ List.replicate n '0', c.isDigit = true := fun n c hc => by
    rw [List.eq_of_mem_replicate hc]
    rfl
  have hall : ∀ c ∈ d :: rest, c.isDigit = true := List.forall_mem_cons.2 ⟨hd, hrest⟩
  rw [pointed]
  split
  · have hfraction : IsDigits (List.replicate (lead.natAbs - 1) '0' ++ d :: rest) :=
      ⟨by simp, List.forall_mem_append.2 ⟨hzeros _, hall⟩⟩
    simpa using IsNumber.mk hsign .zero (.some hfraction) .none
  · dsimp only
    have hwhole : IsWhole ((d :: rest).take (lead.natAbs + 1) ++
        List.replicate (lead.natAbs + 1 - (d :: rest).length) '0') := by
      rw [List.take_succ_cons, List.cons_append]
      refine .digits hd hnot (List.forall_mem_append.2 ⟨fun c hc => hrest c (List.mem_of_mem_take hc), hzeros _⟩)
    have hfraction : IsDigits (if ((d :: rest).drop (lead.natAbs + 1)).isEmpty then ['0']
        else (d :: rest).drop (lead.natAbs + 1)) := by
      split
      · exact ⟨by simp, List.forall_mem_singleton.2 rfl⟩
      · rename_i hback
        exact ⟨by simpa using hback, fun c hc => hall c (List.mem_of_mem_drop hc)⟩
    simpa using IsNumber.mk hsign hwhole (.some hfraction) .none

theorem isNumber_exponential {sign : List Char} (hsign : sign = [] ∨ sign = ['-']) (hd : d.isDigit = true)
    (hnot : d ≠ '0') (hrest : ∀ c ∈ rest, c.isDigit = true) : IsNumber (sign ++ exponential (d :: rest) lead) := by
  have hexponent : IsDigits (if (Nat.toDigits 10 lead.natAbs).length < 2 then '0' :: Nat.toDigits 10 lead.natAbs
      else Nat.toDigits 10 lead.natAbs) := by
    split
    · exact ⟨by simp, List.forall_mem_cons.2 ⟨rfl, fun c hc => isDigit_toDigits hc⟩⟩
    · exact ⟨Nat.toDigits_ne_nil, fun c hc => isDigit_toDigits hc⟩
  have hmark : (if lead < 0 then ['-'] else ['+']) = [] ∨ (if lead < 0 then ['-'] else ['+']) = ['+'] ∨
      (if lead < 0 then ['-'] else ['+']) = ['-'] := by split <;> simp
  have hlast := IsExponent.some (.inl rfl) hmark hexponent
  have hone : IsWhole [d] := .digits hd hnot nofun
  have hshape : exponential (d :: rest) lead = [d] ++ (if rest = [] then [] else '.' :: rest) ++
      ('e' :: (if lead < 0 then ['-'] else ['+']) ++ (if (Nat.toDigits 10 lead.natAbs).length < 2 then
        '0' :: Nat.toDigits 10 lead.natAbs else Nat.toDigits 10 lead.natAbs)) := by
    cases rest <;> simp [exponential] <;> split <;> rfl
  have hfraction : IsFraction (if rest = [] then [] else '.' :: rest) := by
    split
    · exact .none
    · rename_i hne
      exact .some ⟨hne, hrest⟩
  rw [hshape, ← List.append_assoc sign, ← List.append_assoc sign]
  exact .mk hsign hone hfraction hlast

end

theorem isNumber_written (sign : List Char) (hsign : sign = [] ∨ sign = ['-']) (s : Scaled) :
    IsNumber (sign ++ s.written) := by
  rw [Scaled.written]
  split
  · have hfraction : IsDigits ['0'] := ⟨by simp, List.forall_mem_singleton.2 rfl⟩
    simpa using IsNumber.mk hsign .zero (.some hfraction) .none
  · rename_i hne
    obtain ⟨d, rest, hdigits, hd⟩ := exists_toDigits (Nat.pos_of_ne_zero hne)
    have hall : ∀ c ∈ d :: rest, c.isDigit = true := fun c hc => isDigit_toDigits (hdigits ▸ hc)
    obtain ⟨hfirst, hrest⟩ := List.forall_mem_cons.1 hall
    dsimp only
    rw [hdigits]
    split
    · exact isNumber_pointed hsign hfirst hd hrest
    · exact isNumber_exponential hsign hfirst hd hrest

/-! ## Strings -/

theorem isChars_escapeChar (c : Char) {rest : List Char} (h : IsChars rest) : IsChars (escapeChar c ++ rest) := by
  rw [escapeChar]
  split
  · rename_i hc
    simp only [Bool.or_eq_true, beq_iff_eq] at hc
    rcases hc with rfl | rfl <;> exact .escape (by decide) h
  · rename_i hc
    simp only [Bool.or_eq_true, beq_iff_eq, not_or] at hc
    repeat (split; · exact .escape (by decide) h)
    split
    · exact .code (Text.hexPadded_length 4 _) (fun d hd => Text.hexValue_of_mem_hexPadded hd) h
    · exact .plain (by omega) hc.1 hc.2 h

theorem isString_writeText (s : String) : IsString (writeText s) := by
  refine .mk ?_
  induction s.toList with
  | nil => exact .nil
  | cons c cs ih => exact isChars_escapeChar c ih

/-! ## Values -/

/-- What holds of arrays and objects if it holds of their parts, and of all other values, holds of all values. -/
theorem byParts {P : Json → Prop} (null : P .null) (bool : ∀ b, P (.bool b)) (int : ∀ n, P (.int n))
    (float : ∀ x, P (.float x)) (str : ∀ s, P (.str s)) (unpaired : ∀ s, P (.unpaired s))
    (arr : ∀ vs, (∀ v ∈ vs, P v) → P (.arr vs)) (obj : ∀ ms : Members, (∀ m ∈ ms, P m.2) → P (.obj ms)) (v : Json) : P v :=
  @Json.rec P (fun vs => ∀ v ∈ vs, P v) (fun ms => ∀ m ∈ ms, P m.2) (fun m => P m.2) null bool int float str unpaired
    arr obj nofun (fun _ _ hv hvs => List.forall_mem_cons.2 ⟨hv, hvs⟩) nofun
    (fun _ _ hm hms => List.forall_mem_cons.2 ⟨hm, hms⟩) (fun _ _ h => h) v

mutual

/-- No float of the value is infinite or no number. -/
def isFinite : Json → Bool
  | .float x =>
    match Binary.ofFloat x with
    | .finite .. => true
    | _ => false
  | .arr vs => allFinite vs
  | .obj ms => membersFinite ms
  | _ => true

def allFinite : List Json → Bool
  | [] => true
  | v :: vs => isFinite v && allFinite vs

def membersFinite : List (String × Json) → Bool
  | [] => true
  | (_, v) :: ms => isFinite v && membersFinite ms

end

theorem isFinite_arr {vs : List Json} : isFinite (.arr vs) = true ↔ ∀ v ∈ vs, v.isFinite = true := by
  rw [isFinite]
  induction vs with
  | nil => simp [allFinite]
  | cons v vs ih => rw [allFinite, Bool.and_eq_true, ih, List.forall_mem_cons]

theorem isFinite_obj {ms : Members} : isFinite (.obj ms) = true ↔ ∀ m ∈ ms, m.2.isFinite = true := by
  rw [isFinite]
  induction ms with
  | nil => simp [membersFinite]
  | cons m ms ih => rw [membersFinite, Bool.and_eq_true, ih, List.forall_mem_cons]

theorem isBlanks_lineStart (depth : Nat) : IsBlanks (lineStart depth) := by
  intro c hc
  rcases List.mem_cons.1 hc with rfl | hc
  · exact .inr (.inr (.inl rfl))
  · exact .inl (List.eq_of_mem_replicate hc)

theorem isBlanks_nil : IsBlanks [] := nofun

/-- A float is a number if it is finite. -/
theorem isNumber_writeFloat {x : Float} (h : isFinite (.float x) = true) : IsNumber (writeFloat x) := by
  rw [isFinite] at h
  rw [writeFloat]
  split at h
  · rename_i negative m q hx
    rw [hx]
    dsimp only
    rw [Binary.written, String.toList_ofList]
    exact isNumber_written _ (by split <;> simp) _
  · cases h

/-- Written items are elements of an array, if each of them is a value. -/
theorem isElements_write {depth : Nat} {v : Json} {vs : List Json} {as es : List Char} (has : IsBlanks as)
    (hes : IsBlanks es) (h : ∀ x ∈ v :: vs, IsValue (write depth x)) :
    IsElements (as ++ write depth v ++ (writeItems depth vs ++ es)) := by
  induction vs generalizing v as with
  | nil => exact .last has (h v List.mem_cons_self) hes
  | cons v' vs ih =>
    obtain ⟨hv, hvs⟩ := List.forall_mem_cons.1 h
    have hmore := IsElements.more has hv isBlanks_nil (ih (isBlanks_lineStart depth) hvs)
    rw [writeItems]
    simpa using hmore

/-- Written members are members of an object, if the value of each is one. -/
theorem isMembers_write {depth : Nat} {k : String} {v : Json} {ms : Members} {as es : List Char} (has : IsBlanks as)
    (hes : IsBlanks es) (h : ∀ m ∈ (k, v) :: ms, IsValue (write depth m.2)) :
    IsMembers (as ++ writeText k ++ [':', ' '] ++ write depth v ++ (writeMembers depth ms ++ es)) := by
  have hspace : IsBlanks [' '] := fun c hc => .inl (List.mem_singleton.1 hc)
  induction ms generalizing k v as with
  | nil =>
    have hlast := IsMembers.last has (isString_writeText k) isBlanks_nil hspace (h _ List.mem_cons_self) hes
    rw [writeMembers]
    simpa using hlast
  | cons m ms ih =>
    obtain ⟨hv, hms⟩ := List.forall_mem_cons.1 h
    have hmore := IsMembers.more has (isString_writeText k) isBlanks_nil hspace hv isBlanks_nil
      (ih (isBlanks_lineStart depth) hms)
    rw [writeMembers]
    simpa using hmore

/-- A value without words is written as one. -/
theorem isValue_write (v : Json) : v.isFinite = true → ∀ depth, IsValue (write depth v) := by
  induction v using byParts with
  | null => exact fun _ _ => .null
  | bool b => cases b <;> exact fun _ _ => by constructor
  | int n => exact fun _ _ => .number (isNumber_writeInt n)
  | float x => exact fun h _ => .number (isNumber_writeFloat h)
  | str s | unpaired s => exact fun _ _ => .string (isString_writeText s)
  | arr vs ih =>
    intro h depth
    rw [isFinite_arr] at h
    cases vs with
    | nil => exact .emptyArray isBlanks_nil
    | cons v vs =>
      have helements := isElements_write (isBlanks_lineStart (depth + 1)) (isBlanks_lineStart depth)
        fun x hx => ih x hx (h x hx) (depth + 1)
      rw [write]
      simpa using IsValue.array helements
  | obj ms ih =>
    intro h depth
    rw [isFinite_obj] at h
    cases ms with
    | nil => exact .emptyObject isBlanks_nil
    | cons m ms =>
      have hmembers := isMembers_write (isBlanks_lineStart (depth + 1)) (isBlanks_lineStart depth)
        fun x hx => ih x hx (h x hx) (depth + 1)
      rw [write]
      simpa using IsValue.object hmembers

/-! ## Words -/

/-- What is said while a value is read aloud: something, if a float of it is written as a word. -/
def Says (b : Bool) (cs : List Char) : Prop := ∀ l, Reader.readAll ⟨.outside, l⟩ cs = ⟨.outside, l || b⟩

section
variable {b b' : Bool} {cs ds : List Char}

theorem Says.of_silent (h : Silent cs) : Says false cs := fun l => by rw [h, Bool.or_false]

theorem Says.append (h : Says b cs) (h' : Says b' ds) : Says (b || b') (cs ++ ds) := fun l => by
  rw [Reader.readAll_append, h, h', Bool.or_assoc]

theorem Says.append_silent (h : Says b cs) (h' : Silent ds) : Says b (cs ++ ds) := fun l => by
  rw [Reader.readAll_append, h, h']

theorem Silent.before (h : Silent cs) (h' : Says b ds) : Says b (cs ++ ds) := fun l => by
  rw [Reader.readAll_append, h, h']

theorem Says.cons {c : Char} (hc : IsQuiet c) (h : Says b cs) : Says b (c :: cs) :=
  (Silent.nil.cons hc).before h

end

theorem says_writeFloat (x : Float) : Says (!isFinite (.float x)) (writeFloat x) := by
  cases h : isFinite (.float x) with
  | true => exact .of_silent (isNumber_writeFloat h).silent
  | false =>
    rw [isFinite] at h
    rw [writeFloat]
    cases hx : Binary.ofFloat x with
    | nan => exact fun l => by cases l <;> rfl
    | infinite negative => cases negative <;> exact fun l => by cases l <;> rfl
    | finite =>
      rw [hx] at h
      cases h

theorem silent_lineStart (depth : Nat) : Silent (lineStart depth) := (isBlanks_lineStart depth).silent

theorem silent_key (k : String) : Silent (writeText k ++ [':', ' ']) :=
  (isString_writeText k).silent.append (silent_of_quiet (by decide))

theorem says_writeItems {depth : Nat} {vs : List Json} (h : ∀ v ∈ vs, Says (!v.isFinite) (write depth v)) :
    Says (!allFinite vs) (writeItems depth vs) := by
  induction vs with
  | nil => exact .of_silent .nil
  | cons v vs ih =>
    obtain ⟨hv, hvs⟩ := List.forall_mem_cons.1 h
    rw [writeItems, allFinite, Bool.not_and]
    exact .cons (by decide) (((silent_lineStart depth).before hv).append (ih hvs))

theorem says_writeMembers {depth : Nat} {ms : Members} (h : ∀ m ∈ ms, Says (!m.2.isFinite) (write depth m.2)) :
    Says (!membersFinite ms) (writeMembers depth ms) := by
  induction ms with
  | nil => exact .of_silent .nil
  | cons m ms ih =>
    obtain ⟨hv, hms⟩ := List.forall_mem_cons.1 h
    rw [writeMembers, membersFinite, Bool.not_and, List.append_assoc (lineStart depth)]
    exact .cons (by decide) ((((silent_lineStart depth).append (silent_key m.1)).before hv).append (ih hms))

/-- A word is said exactly if a float of the value is one. -/
theorem says_write (v : Json) : ∀ depth, Says (!v.isFinite) (write depth v) := by
  induction v using byParts with
  | null => exact fun _ => .of_silent IsValue.null.silent
  | bool b =>
    cases b with
    | true => exact fun _ => .of_silent IsValue.true.silent
    | false => exact fun _ => .of_silent IsValue.false.silent
  | int n => exact fun _ => .of_silent (isNumber_writeInt n).silent
  | float x => exact fun _ => says_writeFloat x
  | str s | unpaired s => exact fun _ => .of_silent (isString_writeText s).silent
  | arr vs ih =>
    intro depth
    cases vs with
    | nil => exact .of_silent (IsValue.emptyArray isBlanks_nil).silent
    | cons v vs =>
      obtain ⟨hv, hvs⟩ := List.forall_mem_cons.1 ih
      rw [write, isFinite, allFinite, Bool.not_and]
      refine .cons (by decide) (Says.append_silent (Says.append_silent ?_ (silent_lineStart depth))
        (.cons (by decide) .nil))
      exact ((silent_lineStart _).before (hv _)).append (says_writeItems fun x hx => hvs x hx _)
  | obj ms ih =>
    intro depth
    cases ms with
    | nil => exact .of_silent (IsValue.emptyObject isBlanks_nil).silent
    | cons m ms =>
      obtain ⟨hv, hms⟩ := List.forall_mem_cons.1 ih
      rw [write, isFinite, membersFinite, Bool.not_and, List.append_assoc (lineStart _)]
      refine .cons (by decide) (Says.append_silent (Says.append_silent ?_ (silent_lineStart depth))
        (.cons (by decide) .nil))
      exact (((silent_lineStart _).append (silent_key m.1)).before (hv _)).append
        (says_writeMembers fun x hx => hms x hx _)

/-- The text of a value is a document exactly if all floats of the value are finite. -/
theorem isDocument_render_iff (v : Json) : IsDocument v.render.toList ↔ v.isFinite = true := by
  rw [render, String.toList_ofList]
  constructor
  · intro h
    have hsays := (says_write v 0 false).symm.trans (h.silent false)
    simpa using congrArg Reader.loud hsays
  · intro h
    simpa using IsDocument.mk isBlanks_nil (isValue_write v h 0) isBlanks_nil

end BrowserPlan.Json
