import BrowserPlan.Proofs.Extraction.Progress

/-!
# Values that are kept

No value that comes into an arena is lost: each record is a root or held by another record, so it is part of the
records in the end. Whatever holds of a value exactly if it holds of its parts (`Partwise`) then holds of the
records exactly if it holds of all values that were put into them (`Keeps.results_iff`).
-/
namespace BrowserPlan

/-- A property that arrays and objects have exactly if their parts have it, and texts have in any case. -/
structure Json.Partwise (P : Json → Prop) : Prop where
  arr : ∀ vs : List Json, P (.arr vs) ↔ ∀ v ∈ vs, P v
  obj : ∀ ms : Json.Members, P (.obj ms) ↔ ∀ m ∈ ms, P m.2
  str : ∀ s, P (.str s)

namespace Extraction

variable {P : Json → Prop} {a : Arena} {p : Nat} {shown : List Json}

theorem Draft.mem_entries_assign_iff {d : Draft} {e e' : Entry} :
    e' ∈ (d.assign key e).entries ↔ e' ∈ d.entries ∨ e' = e := by
  induction d with
  | nil => simp [Draft.assign, Draft.entries, Cell.entries]
  | cons c rest ih =>
    obtain ⟨k, c⟩ := c
    rw [Draft.assign]
    split
    · rw [Draft.entries_cons, Draft.entries_cons, Cell.entries_add]
      simp only [List.mem_append, List.mem_singleton]
      exact or_right_comm
    · rw [Draft.entries_cons, Draft.entries_cons, List.mem_append, List.mem_append, ih, or_assoc]

/-- A record has such a property exactly if all its entries have it. -/
theorem Draft.members_iff (hP : Json.Partwise P) (final : Nat → Json) (d : Draft) :
    P (.obj (d.members final)) ↔ ∀ e ∈ d.entries, P (e.close final) := by
  rw [hP.obj, Draft.members, List.forall_mem_map]
  have hentries : (∀ e ∈ d.entries, P (e.close final)) ↔ ∀ c ∈ d, ∀ e ∈ c.2.entries, P (e.close final) := by
    simp only [Draft.entries, List.forall_mem_flatMap]
  refine Iff.trans (forall₂_congr fun c _ => ?_) hentries.symm
  obtain ⟨name, e | es⟩ := c
  · simp [Cell.entries]
  · dsimp only
    rw [hP.arr, List.forall_mem_map]
    rfl

namespace Arena

/-- The record at a place has this entry. -/
def Has (a : Arena) (p : Nat) (e : Entry) : Prop := ∃ d, a.records[p]? = some d ∧ e ∈ d.entries

/-- The record at a place is a root, or another record holds it. -/
def IsHeld (a : Arena) (p : Nat) : Prop := p ∈ a.roots ∨ ∃ q, a.Has q (.record p)

theorem has_assign {q : Nat} {e e' : Entry} (hp : p < a.records.size) :
    (a.assign p key e).Has q e' ↔ a.Has q e' ∨ (q = p ∧ e' = e) := by
  simp only [Has, assign, Array.getElem?_modify]
  by_cases hpq : p = q
  · subst hpq
    have hd := Array.getElem?_eq_getElem hp
    simp [hd, Draft.mem_entries_assign_iff]
  · simp [hpq, Ne.symm hpq]

theorem has_push {roots : Array Nat} {q : Nat} {e : Entry} :
    ({ records := a.records.push [], roots := roots } : Arena).Has q e ↔ a.Has q e := by
  simp only [Has, Array.getElem?_push]
  by_cases hq : q = a.records.size
  · subst hq
    simp [Draft.entries]
  · simp [hq]

end Arena

/-- The arena keeps all values it was shown: each record is held, and if the values have such a property, all
records have it. -/
structure Keeps (P : Json → Prop) (a : Arena) (shown : List Json) : Prop where
  forward : a.Forward
  roots : ∀ p ∈ a.roots, p < a.records.size
  held : ∀ p < a.records.size, a.IsHeld p
  kept : (∀ p v, a.Has p (.value v) → P v) ↔ ∀ v ∈ shown, P v

namespace Keeps

theorem congr {other : List Json} (h : Keeps P a shown) (hshown : (∀ v ∈ shown, P v) ↔ ∀ v ∈ other, P v) :
    Keeps P a other := ⟨h.forward, h.roots, h.held, h.kept.trans hshown⟩

/-! ## In the end -/

/-- If all values have such a property, all records have it in the end, the last one first. -/
theorem final (hP : Json.Partwise P) (h : Keeps P a shown) (hshown : ∀ v ∈ shown, P v) (hp : p < a.records.size) :
    P (a.final p) := by
  induction hn : a.records.size - p using Nat.strongRecOn generalizing p with
  | _ n ih =>
    have hd := Array.getElem?_eq_getElem hp
    rw [Arena.final_eq h.forward hd, Draft.members_iff hP]
    intro e he
    cases e with
    | value v => exact h.kept.2 hshown p v ⟨_, hd, he⟩
    | record q =>
      obtain ⟨hpq, hq⟩ := h.forward p _ hd q he
      exact ih _ (by omega) hq rfl

/-- If all roots have such a property, all records have it, the first one first. -/
theorem of_roots (hP : Json.Partwise P) (h : Keeps P a shown) (hroots : ∀ p ∈ a.roots, P (a.final p))
    (hp : p < a.records.size) : P (a.final p) := by
  induction p using Nat.strongRecOn with
  | _ p ih =>
    rcases h.held p hp with hroot | ⟨q, d, hd, he⟩
    · exact hroots p hroot
    · have hq := (Array.getElem?_eq_some_iff.1 hd).1
      have hholder := ih q (h.forward q d hd p he).1 hq
      rw [Arena.final_eq h.forward hd, Draft.members_iff hP] at hholder
      exact hholder _ he

/-- The records have such a property exactly if all values have it that the arena was shown. -/
theorem results_iff (hP : Json.Partwise P) (h : Keeps P a shown) : (∀ v ∈ a.results, P v) ↔ ∀ v ∈ shown, P v := by
  have hresults : (∀ v ∈ a.results, P v) ↔ ∀ p ∈ a.roots, P (a.final p) := by
    change (∀ v ∈ a.roots.toList.map a.final, P v) ↔ _
    rw [List.forall_mem_map]
    simp
  rw [hresults]
  constructor
  · intro hroots
    refine h.kept.1 fun p v ⟨d, hd, he⟩ => ?_
    have hrecord := h.of_roots hP hroots (Array.getElem?_eq_some_iff.1 hd).1
    rw [Arena.final_eq h.forward hd, Draft.members_iff hP] at hrecord
    exact hrecord _ he
  · exact fun hshown p hp => h.final hP hshown (h.roots p hp)

/-! ## Step by step -/

theorem start : Keeps P {} [] := ⟨fun p d hd => by simp at hd, by simp, by simp, by simp [Arena.Has]⟩

theorem addRoot (h : Keeps P a shown) : Keeps P a.addRoot shown := by
  refine ⟨forward_push h.forward _, fun p hp => ?_, fun p hp => ?_, ?_⟩
  · rw [size_records_addRoot]
    rcases Array.mem_push.1 hp with hp | rfl
    · exact Nat.lt_succ_of_lt (h.roots p hp)
    · exact Nat.lt_succ_self _
  · rw [size_records_addRoot] at hp
    rcases Nat.lt_succ_iff_lt_or_eq.1 hp with hp | rfl
    · rcases h.held p hp with hroot | ⟨q, hq⟩
      · exact .inl (Array.mem_push_of_mem _ hroot)
      · exact .inr ⟨q, Arena.has_push.2 hq⟩
    · exact .inl Array.mem_push_self
  · refine Iff.trans ?_ h.kept
    simp only [Arena.addRoot, Arena.has_push]

theorem addRoots (n : Nat) : ∀ {a : Arena}, Keeps P a shown → Keeps P (a.addRoots n) shown := by
  induction n with
  | zero => exact fun h => h
  | succ n ih => exact fun h => ih h.addRoot

/-- A value under a key of a record is kept. -/
theorem assign_value {v : Json} (key : String) (hp : p < a.records.size) (h : Keeps P a shown) :
    Keeps P (a.assign p key (.value v)) (shown ++ [v]) := by
  have hsize : (a.assign p key (.value v)).records.size = a.records.size := Array.size_modify
  refine ⟨fun q d hd r hr => ?_, fun q hq => hsize.symm ▸ h.roots q hq, fun q hq => ?_, ?_⟩
  · rcases (Arena.has_assign hp).1 ⟨d, hd, hr⟩ with ⟨d', hd', hr⟩ | ⟨-, heq⟩
    · exact hsize.symm ▸ h.forward q d' hd' r hr
    · cases heq
  · exact (h.held q (hsize ▸ hq)).imp_right fun ⟨r, hr⟩ => ⟨r, (Arena.has_assign hp).2 (.inl hr)⟩
  · rw [List.forall_mem_append, List.forall_mem_singleton, ← h.kept]
    constructor
    · exact fun hall => ⟨fun q w hw => hall q w ((Arena.has_assign hp).2 (.inl hw)),
        hall p v ((Arena.has_assign hp).2 (.inr ⟨rfl, rfl⟩))⟩
    · rintro ⟨hall, hv⟩ q w hw
      rcases (Arena.has_assign hp).1 hw with hw | ⟨-, heq⟩
      · exact hall q w hw
      · cases heq
        exact hv

/-- A new record under a key of a record is held by it. -/
theorem nested (key : String) (hp : p < a.records.size) (h : Keeps P a shown) :
    Keeps P (a.add.1.assign p key (.record a.records.size)) shown := by
  have hsize : a.add.1.records.size = a.records.size + 1 := Array.size_push _
  have hsizes : (a.add.1.assign p key (.record a.records.size)).records.size = a.records.size + 1 :=
    Array.size_modify.trans hsize
  have hhas : ∀ {q e}, (a.add.1.assign p key (.record a.records.size)).Has q e ↔
      a.Has q e ∨ (q = p ∧ e = .record a.records.size) := by
    intro q e
    rw [Arena.has_assign (hsize ▸ Nat.lt_succ_of_lt hp)]
    exact or_congr_left Arena.has_push
  refine ⟨fun q d hd r hr => ?_, fun q hq => hsizes ▸ Nat.lt_succ_of_lt (h.roots q hq), fun q hq => ?_, ?_⟩
  · rw [hsizes]
    rcases hhas.1 ⟨d, hd, hr⟩ with ⟨d', hd', hr⟩ | ⟨rfl, heq⟩
    · obtain ⟨hqr, hlt⟩ := h.forward q d' hd' r hr
      exact ⟨hqr, Nat.lt_succ_of_lt hlt⟩
    · cases heq
      exact ⟨hp, Nat.lt_succ_self _⟩
  · rw [hsizes] at hq
    rcases Nat.lt_succ_iff_lt_or_eq.1 hq with hq | rfl
    · exact (h.held q hq).imp_right fun ⟨r, hr⟩ => ⟨r, hhas.2 (.inl hr)⟩
    · exact .inr ⟨p, hhas.2 (.inr ⟨rfl, rfl⟩)⟩
  · rw [← h.kept]
    refine forall₂_congr fun q v => ?_
    rw [hhas]
    simp

end Keeps

/-! ## Work -/

section
variable {ε : Type} {w : Work ε}

/-- The record that the work is for is there. -/
def Work.IsPlaced (a : Arena) (w : Work ε) : Prop := ∀ p, w.place = some p → p < a.records.size

theorem Work.IsPlaced.mono {b : Arena} (h : a.records.size ≤ b.records.size) (hw : w.IsPlaced a) : w.IsPlaced b :=
  fun p hp => Nat.lt_of_lt_of_le (hw p hp) h

/-- A larger arena that keeps what it was shown. -/
structure Grows (P : Json → Prop) (a b : Arena) (shown : List Json) : Prop where
  keeps : Keeps P b shown
  size : a.records.size ≤ b.records.size

theorem Grows.trans {b c : Arena} {later : List Json} (h : Grows P a b shown) (h' : Grows P b c later) :
    Grows P a c later := ⟨h'.keeps, Nat.le_trans h.size h'.size⟩

theorem size_addRoots_le (n : Nat) : ∀ a : Arena, a.records.size ≤ (a.addRoots n).records.size := by
  induction n with
  | zero => exact fun _ => Nat.le_refl _
  | succ n ih =>
    intro a
    have hstep := ih a.addRoot
    rw [size_records_addRoot] at hstep
    exact Nat.le_of_succ_le hstep

/-- The record for the next value is there, made where it was missing. -/
theorem grows_placeFor (pos : Nat) (hw : w.IsPlaced a) (h : Keeps P a shown) : Grows P a (a.placeFor w.place pos).1 shown ∧
    (a.placeFor w.place pos).2 < (a.placeFor w.place pos).1.records.size := by
  have hseat : Seated (a.placeFor w.place pos).1 w.place pos (a.placeFor w.place pos).2 := seated_placeFor
  cases hplace : w.place with
  | some q => exact ⟨⟨h, Nat.le_refl _⟩, hw q hplace⟩
  | none =>
    rw [hplace] at hseat
    have hkeeps : Keeps P (a.placeFor none pos).1 shown := h.addRoots _
    exact ⟨⟨hkeeps, size_addRoots_le _ a⟩, hkeeps.roots _ (Array.mem_of_getElem? hseat)⟩

theorem grows_assignValues (vs : List Json) : ∀ (pos : Nat) {a : Arena} {shown : List Json}, w.IsPlaced a →
    Keeps P a shown → Grows P a (assignValues w pos a vs) (shown ++ vs) := by
  induction vs with
  | nil => exact fun _ _ _ _ h => ⟨by rwa [List.append_nil], Nat.le_refl _⟩
  | cons v vs ih =>
    intro pos a shown hw h
    obtain ⟨hplace, hlt⟩ := grows_placeFor pos hw h
    have hassign : Grows P _ _ (shown ++ [v]) :=
      ⟨hplace.keeps.assign_value w.key hlt, Nat.le_of_eq Array.size_modify.symm⟩
    have hfirst := hplace.trans hassign
    rw [assignValues, List.append_cons]
    exact hfirst.trans (ih _ (hw.mono hfirst.size) hfirst.keeps)

/-- The records for the elements that a field selects are held, and there for the work that follows. -/
theorem grows_assignElements (es : List ε) : ∀ (pos : Nat) {a : Arena}, w.IsPlaced a → Keeps P a shown →
    Grows P a (assignElements w pos a es).1 shown ∧
      ∀ w' ∈ (assignElements w pos a es).2, w'.IsPlaced (assignElements w pos a es).1 := by
  induction es with
  | nil => exact fun _ _ _ h => ⟨⟨h, Nat.le_refl _⟩, nofun⟩
  | cons e es ih =>
    intro pos a hw h
    obtain ⟨hplace, hlt⟩ := grows_placeFor pos hw h
    have hsize : ((a.placeFor w.place pos).1.add.1.assign (a.placeFor w.place pos).2 w.key
        (.record (a.placeFor w.place pos).1.records.size)).records.size =
          (a.placeFor w.place pos).1.records.size + 1 := Array.size_modify.trans (Array.size_push _)
    have hnested : Grows P (a.placeFor w.place pos).1 _ shown :=
      ⟨hplace.keeps.nested w.key hlt, hsize ▸ Nat.le_succ _⟩
    have hfirst := hplace.trans hnested
    obtain ⟨hrest, hplaced⟩ := ih (pos + 1) (hw.mono hfirst.size) hfirst.keeps
    refine ⟨hfirst.trans hrest, fun w' hw' => ?_⟩
    rcases List.mem_append.1 hw' with hw' | hw'
    · obtain ⟨c, -, rfl⟩ := List.mem_map.1 hw'
      rintro p ⟨⟩
      exact Nat.lt_of_lt_of_le (hsize ▸ Nat.lt_succ_self _) hrest.size
    · exact hplaced w' hw'

end

end Extraction
end BrowserPlan
