import BrowserPlan.Schema.Checked
import Mathlib.Data.List.Forall2
import Mathlib.Data.List.Pairwise

/-!
# Readings that come out alike

Two results are `Alike` if both are values, and these are related, or both are faults, whatever they say. Everything
that readings are put together with keeps this, one lemma for each; so what is read from the members of an object comes
out alike where each field does, and no member is a stranger in one of them only.

What a field is read from is told by the keys alone: `Field.get?` is the value, and `Accounted` says that every key
belongs to a field. One lemma each says what a new member changes (`get?_insert_ne`, `get?_insert_self`,
`accounted_insert`), what another value under a key changes (`get?_swap`), and that the order changes nothing.
-/
namespace BrowserPlan

/-- Both are values, related by `R`, or both are faults. -/
inductive Alike {ε δ α β : Type} (R : α → β → Prop) : Except ε α → Except δ β → Prop where
  | ok {a b} (h : R a b) : Alike R (.ok a) (.ok b)
  | error {e d} : Alike R (.error e) (.error d)

/-- Functions that take related values to related values. -/
def Respects {α α' β β' : Type} (R : α → α' → Prop) (S : β → β' → Prop) (f : α → β) (f' : α' → β') : Prop :=
  ∀ a a', R a a' → S (f a) (f' a')

namespace Alike

variable {ε δ γ α α' β β' : Type} {R : α → α' → Prop} {S : β → β' → Prop}

theorem refl {R : α → α → Prop} (h : ∀ a, R a a) (r : Except ε α) : Alike R r r := by
  cases r with
  | ok a => exact .ok (h a)
  | error e => exact .error

theorem symm {r : Except ε α} {r' : Except δ α'} (h : Alike R r r') : Alike (fun a' a => R a a') r' r := by
  cases h with
  | ok h => exact .ok h
  | error => exact .error

theorem trans {R T : α → α → Prop} {U : α → α → Prop} {r : Except ε α} {r' : Except δ α} {r'' : Except γ α}
    (h : Alike R r r') (h' : Alike T r' r'') (hU : ∀ a b c, R a b → T b c → U a c) : Alike U r r'' := by
  cases h with
  | ok h =>
    cases h' with
    | ok h' => exact .ok (hU _ _ _ h h')
  | error =>
    cases h' with
    | error => exact .error

theorem mono {T : α → α' → Prop} {r : Except ε α} {r' : Except δ α'} (h : Alike R r r') (hT : ∀ a a', R a a' → T a a') :
    Alike T r r' := by
  cases h with
  | ok h => exact .ok (hT _ _ h)
  | error => exact .error

/-- What is done next comes out alike, if it does so after related values. -/
theorem bind {r : Except ε α} {r' : Except δ α'} {k : α → Except ε β} {k' : α' → Except δ β'} (h : Alike R r r')
    (hk : ∀ a a', R a a' → Alike S (k a) (k' a')) : Alike S (r >>= k) (r' >>= k') := by
  cases h with
  | ok h => exact hk _ _ h
  | error => exact .error

theorem mapError {ε' δ' : Type} {r : Except ε α} {r' : Except δ α'} (h : Alike R r r') (f : ε → ε') (g : δ → δ') :
    Alike R (r.mapError f) (r'.mapError g) := by
  cases h with
  | ok h => exact .ok h
  | error => exact .error

/-- Neither is a value. -/
theorem of_faults {r : Except ε α} {r' : Except δ α'} (h : ∀ a, r ≠ .ok a) (h' : ∀ a, r' ≠ .ok a) : Alike R r r' := by
  cases r with
  | ok a => exact absurd rfl (h a)
  | error e =>
    cases r' with
    | ok a => exact absurd rfl (h' a)
    | error e' => exact .error

/-- They have the same values, if any. -/
theorem of_values {r r' : Except ε α} (h : ∀ a, r = .ok a ↔ r' = .ok a) : Alike Eq r r' := by
  cases hr : r with
  | ok a =>
    rw [(h a).1 hr]
    exact .ok rfl
  | error e =>
    cases hr' : r' with
    | ok a =>
      rw [(h a).2 hr'] at hr
      cases hr
    | error e' => exact .error

/-! ## Readings -/

open Schema

theorem seq {f : Checked (α → β)} {f' : Checked (α' → β')} {a : Checked α} {a' : Checked α'}
    (hf : Alike (Respects R S) f f') (ha : Alike R a a') : Alike S (f <*> a : Checked β) (f' <*> a' : Checked β') := by
  cases hf with
  | ok hf =>
    cases ha with
    | ok ha => exact .ok (hf _ _ ha)
    | error => exact .error
  | error => cases ha <;> exact .error

theorem map {f : α → β} {f' : α' → β'} {a : Checked α} {a' : Checked α'} (hf : Respects R S f f')
    (ha : Alike R a a') : Alike S (f <$> a : Checked β) (f' <$> a' : Checked β') := by
  cases ha with
  | ok ha => exact .ok (hf _ _ ha)
  | error => exact .error

theorem seqLeft {a : Checked α} {a' : Checked α'} {c : Checked β} {c' : Checked β'} (ha : Alike R a a')
    (hc : Alike S c c') : Alike R (a <* c : Checked α) (a' <* c' : Checked α') := by
  cases ha with
  | ok ha =>
    cases hc with
    | ok => exact .ok ha
    | error => exact .error
  | error => cases hc <;> exact .error

theorem within_left {p : Part} {a : Checked α} {a' : Checked α'} (h : Alike R a a') : Alike R (a.within p) a' := by
  cases h with
  | ok h => exact .ok h
  | error => exact .error

theorem within_right {p : Part} {a : Checked α} {a' : Checked α'} (h : Alike R a a') : Alike R a (a'.within p) := by
  cases h with
  | ok h => exact .ok h
  | error => exact .error

theorem within {p p' : Part} {a : Checked α} {a' : Checked α'} (h : Alike R a a') :
    Alike R (a.within p) (a'.within p') :=
  h.within_left.within_right

theorem keeping {rule : String} {kept : α → Bool} {kept' : α' → Bool} {a : Checked α} {a' : Checked α'}
    (h : Alike R a a') (hkept : ∀ x x', R x x' → kept x = kept' x') :
    Alike R (a.keeping rule kept) (a'.keeping rule kept') := by
  cases h with
  | @ok x x' h =>
    change Alike R (if kept x then Checked.ok x else Checked.fail (.broken rule))
      (if kept' x' then Checked.ok x' else Checked.fail (.broken rule))
    rw [← hkept x x' h]
    cases kept x with
    | true => exact .ok h
    | false => exact .error
  | error => exact .error

theorem items {rs : List (Checked α)} {rs' : List (Checked α')} (h : List.Forall₂ (Alike R) rs rs') :
    ∀ n, Alike (List.Forall₂ R) (itemsFrom n rs) (itemsFrom n rs') := by
  induction h with
  | nil => exact fun _ => .ok .nil
  | cons h _ ih =>
    intro n
    rw [itemsFrom, itemsFrom]
    exact seq (map (fun _ _ h _ _ hs => .cons h hs) (within h)) (ih (n + 1))

end Alike

/-! ## Members -/

namespace Json.Members

variable {a b ms ms' : Json.Members} {key k : String} {v v' : Json}

/-- The keys of an object. -/
def keys (ms : Json.Members) : List String := ms.map (·.1)

/-- None of these keys is there. -/
def Lacks (ms : Json.Members) (names : List String) : Prop := ∀ name ∈ names, name ∉ ms.keys

instance (ms : Json.Members) (names : List String) : Decidable (ms.Lacks names) :=
  inferInstanceAs (Decidable (∀ name ∈ names, name ∉ ms.keys))

theorem mem_keys_insert : key ∈ keys (a ++ (k, v) :: b) ↔ key = k ∨ key ∈ keys (a ++ b) := by
  simp only [keys, List.map_append, List.map_cons, List.mem_append, List.mem_cons]
  exact or_left_comm

theorem Lacks.mono {names names' : List String} (h : ms.Lacks names) (hsub : names' ⊆ names) : ms.Lacks names' :=
  fun name hname => h name (hsub hname)

theorem get?_insert_ne (h : k ≠ key) : Members.get? (a ++ (k, v) :: b) key = Members.get? (a ++ b) key := by
  have hk : (k == key) = false := by simpa using h
  simp [Members.get?, List.find?_append, hk]

theorem get?_eq_none_iff : ms.get? key = none ↔ key ∉ ms.keys := by
  simp only [Members.get?, keys, Option.map_eq_none_iff, List.find?_eq_none, List.mem_map, beq_iff_eq, not_exists,
    not_and]

theorem get?_insert_self (h : key ∉ a.keys) : Members.get? (a ++ (key, v) :: b) key = some v := by
  have hnone : a.find? (fun m => m.1 == key) = none := by simpa [Members.get?] using get?_eq_none_iff.2 h
  simp [Members.get?, List.find?_append, hnone]

/-- Another value under a key changes what is found under the key, if anything. -/
theorem get?_swap (a b : Json.Members) (k key : String) (v v' : Json) :
    Members.get? (a ++ (k, v) :: b) key = Members.get? (a ++ (k, v') :: b) key ∨
      k = key ∧ Members.get? (a ++ (k, v) :: b) key = some v ∧ Members.get? (a ++ (k, v') :: b) key = some v' := by
  by_cases hk : k = key
  · subst hk
    by_cases ha : k ∈ a.keys
    · refine .inl ?_
      obtain ⟨m, hm⟩ := Option.ne_none_iff_exists'.1 fun hnone => get?_eq_none_iff.1 hnone ha
      obtain ⟨m', hm', -⟩ := Option.map_eq_some_iff.1 hm
      simp [Members.get?, List.find?_append, hm']
    · exact .inr ⟨rfl, get?_insert_self ha, get?_insert_self ha⟩
  · exact .inl ((get?_insert_ne hk).trans (get?_insert_ne hk).symm)

/-- The order of the members does not matter, if no key is given twice. -/
theorem get?_perm (hkeys : ms.keys.Nodup) (h : ms.Perm ms') : ms.get? key = ms'.get? key := by
  have hmem : ∀ {l : Json.Members}, l.keys.Nodup → ∀ v, l.get? key = some v ↔ (key, v) ∈ l := by
    intro l hl v
    induction l with
    | nil => simp [Members.get?]
    | cons m l ih =>
      obtain ⟨hm, hl⟩ := List.nodup_cons.1 hl
      rw [Members.get?, List.find?_cons]
      cases hmk : m.1 == key with
      | true =>
        have hmk : m.1 = key := by simpa using hmk
        subst hmk
        have hnot : (m.1, v) ∉ l := fun hv => hm (List.mem_map.2 ⟨_, hv, rfl⟩)
        simp [hnot, Prod.ext_iff, eq_comm]
      | false =>
        have hne : m.1 ≠ key := by simpa using hmk
        have : m ≠ (key, v) := fun heq => hne (heq ▸ rfl)
        simpa [Members.get?, this.symm] using ih hl
  have hkeys' : ms'.keys.Nodup := (h.map _).nodup_iff.1 hkeys
  refine Option.ext fun v => ?_
  rw [hmem hkeys, hmem hkeys', h.mem_iff]

end Json.Members

namespace Schema

open Json.Members (keys Lacks)

deriving instance DecidableEq for Field

/-! ## Fields -/

namespace Field

variable {f : Field} {a b ms ms' : Json.Members} {k : String} {v v' : Json}

/-- The names under which a field is read. -/
def spellings (f : Field) : List String := f.name :: f.otherName.toList

/-- The value of a field: the one under its preferred name, if it has that. -/
def get? (f : Field) (ms : Json.Members) : Option Json := (ms.get? f.name).or (f.otherName.bind ms.get?)

theorem get?_eq (f : Field) (ms : Json.Members) : (f.find? ms).map (·.2) = f.get? ms := by
  rw [find?, get?, Json.Members.get?]
  cases ms.find? (fun m => m.1 == f.name) with
  | some m => rfl
  | none =>
    cases f.otherName with
    | none => rfl
    | some name => rfl

theorem get?_congr (h : ∀ name ∈ f.spellings, ms.get? name = ms'.get? name) : f.get? ms = f.get? ms' := by
  obtain ⟨name, other⟩ := f
  cases other with
  | none => simp [get?, h name (by simp [spellings])]
  | some other => simp [get?, h name (by simp [spellings]), h other (by simp [spellings])]

/-- A member under another name is not this field's. -/
theorem get?_insert_ne (h : k ∉ f.spellings) : f.get? (a ++ (k, v) :: b) = f.get? (a ++ b) :=
  get?_congr fun _ hname => Json.Members.get?_insert_ne fun heq => h (heq ▸ hname)

theorem get?_of_lacks (h : ms.Lacks f.spellings) : f.get? ms = none := by
  obtain ⟨name, other⟩ := f
  have hname : ms.get? name = none := Json.Members.get?_eq_none_iff.2 (h name (by simp [spellings]))
  cases other with
  | none => simp [get?, hname]
  | some other =>
    have hother : ms.get? other = none := Json.Members.get?_eq_none_iff.2 (h other (by simp [spellings]))
    simp [get?, hname, hother]

/-- The field has the value of the one member under one of its names. -/
theorem get?_insert_self (hk : k ∈ f.spellings) (h : (a ++ b).Lacks f.spellings) :
    f.get? (a ++ (k, v) :: b) = some v := by
  have hself : Json.Members.get? (a ++ (k, v) :: b) k = some v :=
    Json.Members.get?_insert_self fun hmem => h k hk (by simp [keys] at hmem ⊢; exact .inl hmem)
  have hnone : ∀ name ∈ f.spellings, name ≠ k → Json.Members.get? (a ++ (k, v) :: b) name = none := by
    intro name hname hne
    rw [Json.Members.get?_insert_ne hne.symm]
    exact Json.Members.get?_eq_none_iff.2 (h name hname)
  by_cases hname : f.name = k
  · rw [get?, hname, hself, Option.some_or]
  · have hother : f.otherName = some k := by
      rcases List.mem_cons.1 hk with rfl | hk
      · exact absurd rfl hname
      · simpa using hk
    rw [get?, hnone _ List.mem_cons_self hname, hother, Option.none_or]
    exact hself

/-- The field has a value if the one member that may be its own is. -/
theorem get?_put (h : (a ++ b).Lacks f.spellings) :
    f.get? (a ++ (k, v) :: b) = if k ∈ f.spellings then some v else none := by
  by_cases hk : k ∈ f.spellings
  · rw [if_pos hk, get?_insert_self hk h]
  · rw [if_neg hk, get?_insert_ne hk, get?_of_lacks h]

/-- Another value under a key changes what a field has, if it is read under this key. -/
theorem get?_swap (f : Field) (a b : Json.Members) (k : String) (v v' : Json) :
    f.get? (a ++ (k, v) :: b) = f.get? (a ++ (k, v') :: b) ∨
      k ∈ f.spellings ∧ f.get? (a ++ (k, v) :: b) = some v ∧ f.get? (a ++ (k, v') :: b) = some v' := by
  rcases Json.Members.get?_swap a b k f.name v v' with hname | ⟨rfl, hv, hv'⟩
  · cases hother : f.otherName with
    | none =>
      refine .inl ?_
      rw [get?, get?, hname, hother]
      rfl
    | some other =>
      rcases Json.Members.get?_swap a b k other v v' with heq | ⟨rfl, hv, hv'⟩
      · refine .inl ?_
        rw [get?, get?, hname, hother, Option.bind_some, Option.bind_some, heq]
      · cases hfirst : Json.Members.get? (a ++ (k, v') :: b) f.name with
        | some w =>
          refine .inl ?_
          rw [get?, get?, hname, hfirst]
          rfl
        | none =>
          refine .inr ⟨by simp [spellings, hother], ?_, ?_⟩
          · rw [get?, hname, hfirst, hother, Option.none_or]
            exact hv
          · rw [get?, hfirst, hother, Option.none_or]
            exact hv'
  · refine .inr ⟨List.mem_cons_self, ?_, ?_⟩
    · rw [get?, hv, Option.some_or]
    · rw [get?, hv', Option.some_or]

/-- What is read of a field that is there, or what it is without. -/
def orDefault {α : Type} (default : α) (read : Json → Checked α) : Option Json → Checked α
  | some v => read v
  | none => Checked.ok default

section
variable {α α' : Type} {R : α → α' → Prop} {d : α} {d' : α'} {read : Json → Checked α} {read' : Json → Checked α'}

theorem alike_optional (h : Alike R (orDefault d read (f.get? ms)) (orDefault d' read' (f.get? ms'))) :
    Alike R (f.optional d read ms) (f.optional d' read' ms') := by
  rw [← get?_eq, ← get?_eq] at h
  rw [optional, optional]
  cases hms : f.find? ms <;> cases hms' : f.find? ms' <;> rw [hms, hms'] at h
  · exact h
  · exact h.within_right
  · exact h.within_left
  · exact h.within

/-- What is read of a field that must be there. -/
def orMissing {α : Type} (read : Json → Checked α) : Option Json → Checked α
  | some v => read v
  | none => Checked.fail .missing

theorem alike_required (h : Alike R (orMissing read (f.get? ms)) (orMissing read' (f.get? ms'))) :
    Alike R (f.required read ms) (f.required read' ms') := by
  rw [← get?_eq, ← get?_eq] at h
  rw [required, required]
  cases hms : f.find? ms <;> cases hms' : f.find? ms' <;> rw [hms, hms'] at h
  · exact h.within
  · exact h.within
  · exact h.within
  · exact h.within

theorem alike_optional_eq {read : Json → Checked α} (h : f.get? ms = f.get? ms') :
    Alike Eq (f.optional d read ms) (f.optional d read ms') :=
  alike_optional (h ▸ .refl (fun _ => rfl) _)

theorem alike_required_eq {read : Json → Checked α} (h : f.get? ms = f.get? ms') :
    Alike Eq (f.required read ms) (f.required read ms') :=
  alike_required (h ▸ .refl (fun _ => rfl) _)

end

/-- Whether a field is read under this name, where these keys are given. -/
def Reads (f : Field) (names : List String) (name : String) : Prop :=
  name = f.name ∨ f.otherName = some name ∧ f.name ∉ names

theorem Reads.spelling {names : List String} {name : String} (h : f.Reads names name) : name ∈ f.spellings := by
  rcases h with rfl | ⟨h, -⟩
  · exact List.mem_cons_self
  · exact List.mem_cons_of_mem _ (by simp [h])

theorem key_eq_iff (hk : k ∈ ms.keys) : (f.find? ms).map (·.1) = some k ↔ f.Reads ms.keys k := by
  have hfind : ∀ name, (ms.find? fun m => m.1 == name) = none ↔ name ∉ ms.keys := fun name => by
    rw [← Json.Members.get?_eq_none_iff, Json.Members.get?, Option.map_eq_none_iff]
  have hkey : ∀ name m, (ms.find? fun m => m.1 == name) = some m → m.1 = name := fun name m hm => by
    simpa using List.find?_some hm
  rw [find?, Reads]
  cases hname : ms.find? (fun m => m.1 == f.name) with
  | some m =>
    have hmem : f.name ∈ ms.keys := by
      by_contra hnot
      rw [(hfind _).2 hnot] at hname
      cases hname
    simp only [Option.map_some, Option.some.injEq, hkey _ _ hname, hmem, not_true, and_false, or_false]
    exact eq_comm
  | none =>
    have hmem := (hfind _).1 hname
    have hne : k ≠ f.name := fun heq => hmem (heq ▸ hk)
    simp only [hne, false_or, hmem, not_false_eq_true, and_true]
    cases hother : f.otherName with
    | none => simp
    | some other =>
      simp only [Option.bind_some, Option.some.injEq]
      constructor
      · intro h
        obtain ⟨m, hm, hmk⟩ := Option.map_eq_some_iff.1 h
        exact (hkey _ _ hm).symm.trans hmk
      · rintro rfl
        obtain ⟨m, hm⟩ := Option.ne_none_iff_exists'.1 fun hnone => (hfind other).1 hnone hk
        rw [hm, Option.map_some, hkey _ _ hm]

end Field

/-! ## Strangers -/

/-- Every key belongs to a field that is read under it. -/
def Accounted (fields : List Field) (names : List String) : Prop :=
  ∀ name ∈ names, ∃ f ∈ fields, f.Reads names name

/-- No name belongs to two of the fields. -/
def Distinct (fields : List Field) : Prop :=
  fields.Pairwise fun f g => ∀ name ∈ f.spellings, name ∉ g.spellings

instance (fields : List Field) : Decidable (Distinct fields) := inferInstanceAs (Decidable (List.Pairwise _ _))

section
variable {fields : List Field} {ms ms' : Json.Members} {names names' : List String}

theorem noStrangers_eq_ok_iff : noStrangers fields ms = Checked.ok () ↔ Accounted fields ms.keys := by
  have hnil : noStrangers fields ms = Checked.ok () ↔ strangers fields ms = [] := by
    rw [noStrangers]
    cases strangers fields ms with
    | nil => exact iff_of_true rfl rfl
    | cons c cs => exact iff_of_false nofun nofun
  rw [hnil]
  simp only [strangers, List.map_eq_nil_iff, List.filter_eq_nil_iff, Bool.not_eq_true', List.contains_eq_mem,
    decide_eq_false_iff_not, Classical.not_not, List.mem_filterMap]
  refine ⟨fun h name hname => ?_, fun h m hm => ?_⟩
  · obtain ⟨m, hm, rfl⟩ := List.mem_map.1 hname
    obtain ⟨f, hf, hkey⟩ := h m hm
    exact ⟨f, hf, (Field.key_eq_iff hname).1 hkey⟩
  · have hname : m.1 ∈ ms.keys := List.mem_map_of_mem hm
    obtain ⟨f, hf, hreads⟩ := h m.1 hname
    exact ⟨f, hf, (Field.key_eq_iff hname).2 hreads⟩

theorem alike_noStrangers (h : Accounted fields ms.keys ↔ Accounted fields ms'.keys) :
    Alike Eq (noStrangers fields ms) (noStrangers fields ms') :=
  .of_values fun _ => noStrangers_eq_ok_iff.trans (h.trans noStrangers_eq_ok_iff.symm)

theorem accounted_congr (h : ∀ name, name ∈ names ↔ name ∈ names') :
    Accounted fields names ↔ Accounted fields names' := by
  simp only [Accounted, Field.Reads, h]

theorem eq_of_spelling (hfields : Distinct fields) {f g : Field} (hf : f ∈ fields) (hg : g ∈ fields) {name : String}
    (hname : name ∈ f.spellings) (hname' : name ∈ g.spellings) : f = g := by
  by_contra hne
  have hsymm : Std.Symm fun f g : Field => ∀ name ∈ f.spellings, name ∉ g.spellings :=
    ⟨fun f g h name hg hf => h name hf hg⟩
  exact List.Pairwise.forall hfields hf hg hne name hname hname'

/-- A member of one of the fields, which had none, is no stranger, and makes none of another one. -/
theorem accounted_insert (hfields : Distinct fields) {f : Field} (hf : f ∈ fields) {name : String}
    (hname : name ∈ f.spellings) (hlacks : ∀ other ∈ f.spellings, other ∉ names)
    (h : ∀ other, other ∈ names' ↔ other = name ∨ other ∈ names) :
    Accounted fields names' ↔ Accounted fields names := by
  constructor
  · intro hall other hother
    obtain ⟨g, hg, hreads⟩ := hall other ((h other).2 (.inr hother))
    exact ⟨g, hg, hreads.imp_right (.imp_right fun hnot hin => hnot ((h _).2 (.inr hin)))⟩
  · intro hall other hother
    rcases (h other).1 hother with rfl | hother
    · refine ⟨f, hf, ?_⟩
      by_cases heq : other = f.name
      · exact .inl heq
      · refine .inr ⟨?_, fun hin => ?_⟩
        · simpa [Field.spellings, heq, eq_comm] using hname
        · rcases (h _).1 hin with hsame | hin
          · exact heq hsame.symm
          · exact hlacks _ List.mem_cons_self hin
    · obtain ⟨g, hg, hreads⟩ := hall other hother
      refine ⟨g, hg, hreads.imp_right (.imp_right fun hnot hin => ?_)⟩
      rcases (h _).1 hin with hsame | hin
      · -- the new member takes no name from another field
        have hfg := eq_of_spelling hfields hf hg hname (hsame ▸ List.mem_cons_self)
        exact hlacks other (hfg ▸ hreads.spelling) hother
      · exact hnot hin

/-! ## One member more, or under another name -/

variable {f g : Field} {a b : Json.Members} {k k' : String} {v : Json}

theorem get?_insert_of_ne (hfields : Distinct fields) (hf : f ∈ fields) (hg : g ∈ fields) (hne : g ≠ f)
    (hk : k ∈ f.spellings) : g.get? (a ++ (k, v) :: b) = g.get? (a ++ b) :=
  Field.get?_insert_ne fun hkg => hne (eq_of_spelling hfields hg hf hkg hk)

/-- No field has another value when one of them is given under its other name. -/
theorem get?_rename (hfields : Distinct fields) (hf : f ∈ fields) (hk : k ∈ f.spellings) (hk' : k' ∈ f.spellings)
    (hlacks : (a ++ b).Lacks f.spellings) (hg : g ∈ fields) :
    g.get? (a ++ (k, v) :: b) = g.get? (a ++ (k', v) :: b) := by
  by_cases hgf : g = f
  · subst hgf
    rw [Field.get?_insert_self hk hlacks, Field.get?_insert_self hk' hlacks]
  · rw [get?_insert_of_ne hfields hf hg hgf hk, get?_insert_of_ne hfields hf hg hgf hk']

theorem accounted_put (hfields : Distinct fields) (hf : f ∈ fields) (hk : k ∈ f.spellings)
    (hlacks : (a ++ b).Lacks f.spellings) :
    Accounted fields (Json.Members.keys (a ++ (k, v) :: b)) ↔ Accounted fields (Json.Members.keys (a ++ b)) :=
  accounted_insert hfields hf hk hlacks fun _ => Json.Members.mem_keys_insert

theorem accounted_swap {v v' : Json} : Accounted fields (Json.Members.keys (a ++ (k, v) :: b)) ↔
    Accounted fields (Json.Members.keys (a ++ (k, v') :: b)) :=
  accounted_congr fun _ => Json.Members.mem_keys_insert.trans Json.Members.mem_keys_insert.symm

end
end Schema
end BrowserPlan
