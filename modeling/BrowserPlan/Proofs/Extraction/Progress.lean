import BrowserPlan.Proofs.Extraction.Pending

/-!
# The steps of the worklist

What each function of the worklist does to an arena and to what is due, from one assignment up to
all levels of a specification. `levels_eq_records`: on a document whose answers are fixed the
worklist comes to the records that the recursion describes.
-/
namespace BrowserPlan.Extraction

section
variable {a : Arena} {dues below : List Due} {final : Nat → Json} {results : List Json}
  {seat : Seat} {key : String} {v : Json} {vs : List Json} {pos p : Nat} {place : Option Nat}
  {e : Entry}

/-! ## One assignment -/

/-- The record at `p` is the one to get the value that is due at a position. -/
def Seated (a : Arena) (place : Option Nat) (pos p : Nat) : Prop :=
  match place with
  | some q => q = p
  | none => a.roots[pos]? = some p

theorem Seated.lt {u : Due} (hs : Sound a (u :: dues)) (h : Seated a u.place pos p) :
    p < a.records.size := by
  cases hu : u.place with
  | some q =>
    rw [hu] at h
    exact h ▸ (hs.placed u (by simp) q hu).1
  | none =>
    rw [hu] at h
    exact hs.root_lt pos p h

theorem draft_assign_place (q : Nat) : (a.assign p key e).draft (.place q) =
    if p = q ∧ q < a.records.size then (a.draft (.place q)).assign key e
    else a.draft (.place q) := by
  simp only [Arena.draft, Arena.assign, Array.getElem?_modify]
  by_cases hpq : p = q
  · by_cases hq : q < a.records.size
    · simp [hpq, hq]
    · simp [hpq, hq]
  · simp [hpq]

theorem draft_assign_root (hs : Sound a dues) (i : Nat) : (a.assign p key e).draft (.root i) =
    if a.roots[i]? = some p then (a.draft (.root i)).assign key e else a.draft (.root i) := by
  cases hr : a.roots[i]? with
  | none => simp [Arena.draft, Arena.assign, hr]
  | some r =>
    have hlt := hs.root_lt i r hr
    by_cases hp : p = r
    · simp [Arena.draft, Arena.assign, hr, Array.getElem?_modify, hp, hlt]
    · simp [Arena.draft, Arena.assign, hr, Array.getElem?_modify, hp, Ne.symm hp]

/-- A record gets the first value that is due to it, and no other record gets any. -/
theorem assign_cases (hs : Sound a (⟨place, key, pos, v :: vs⟩ :: dues))
    (h : Seated a place pos p) (hseat : ∀ q, seat = .place q → ∀ i : Nat, a.roots[i]? ≠ some q) :
    ((a.assign p key e).draft seat = (a.draft seat).assign key e ∧
      Due.share ⟨place, key, pos, v :: vs⟩ seat =
        v :: Due.share ⟨place, key, pos + 1, vs⟩ seat) ∨
    ((a.assign p key e).draft seat = a.draft seat ∧
      Due.share ⟨place, key, pos, v :: vs⟩ seat = Due.share ⟨place, key, pos + 1, vs⟩ seat) := by
  have hlt : p < a.records.size := Seated.lt hs h
  cases place with
  | some r =>
    obtain rfl : r = p := h
    have hno := (hs.placed _ List.mem_cons_self r rfl).2
    cases seat with
    | place q =>
      by_cases hq : r = q
      · refine .inl ⟨?_, by simp [Due.share, hq]⟩
        rw [draft_assign_place, if_pos ⟨hq, hq ▸ hlt⟩]
      · refine .inr ⟨?_, by simp [Due.share, hq]⟩
        rw [draft_assign_place, if_neg fun hpq => hq hpq.1]
    | root i =>
      refine .inr ⟨?_, by simp [Due.share]⟩
      rw [draft_assign_root hs, if_neg (hno i)]
  | none =>
    cases seat with
    | place q =>
      refine .inr ⟨?_, by simp [Due.share]⟩
      have hne : ¬ (p = q ∧ q < a.records.size) := fun hpq => hseat q rfl pos (hpq.1 ▸ h)
      rw [draft_assign_place, if_neg hne]
    | root i =>
      rw [draft_assign_root hs]
      rcases Nat.lt_trichotomy i pos with hi | rfl | hi
      · have hne : a.roots[i]? ≠ some p := fun hr =>
          Nat.ne_of_lt hi (hs.root_unique i pos p hr h)
        have h1 : ¬ pos ≤ i := by omega
        have h2 : ¬ pos + 1 ≤ i := by omega
        exact .inr ⟨if_neg hne, by simp [Due.share, h1, h2]⟩
      · have hlate : ¬ i + 1 ≤ i := by omega
        exact .inl ⟨if_pos h, by simp [Due.share, hlate]⟩
      · have hne : a.roots[i]? ≠ some p := fun hr =>
          Nat.ne_of_gt hi (hs.root_unique i pos p hr h)
        obtain ⟨n, rfl⟩ : ∃ n, i = pos + 1 + n := ⟨i - (pos + 1), by omega⟩
        have h1 : pos ≤ pos + 1 + n := by omega
        have h2 : pos + 1 + n - pos = n + 1 := by omega
        exact .inr ⟨if_neg hne, by simp [Due.share, h1, h2]⟩

/-- What is foretold after an assignment was foretold before. -/
theorem foretells_assign (hs : Sound a (⟨place, key, pos, v :: vs⟩ :: dues))
    (h : Seated a place pos p) (hv : e.close final = v)
    (hf : Foretells (a.assign p key e) (⟨place, key, pos + 1, vs⟩ :: dues) final results) :
    Foretells a (⟨place, key, pos, v :: vs⟩ :: dues) final results := by
  have hprospect : ∀ seat, (∀ q, seat = .place q → ∀ i : Nat, a.roots[i]? ≠ some q) →
      (a.assign p key e).prospect (⟨place, key, pos + 1, vs⟩ :: dues) final seat =
        a.prospect (⟨place, key, pos, v :: vs⟩ :: dues) final seat := by
    intro seat hseat
    simp only [Arena.prospect, Draft.fillAll_cons]
    rcases assign_cases (e := e) hs h hseat with ⟨hd, hu⟩ | ⟨hd, hu⟩
    · rw [hd, hu, Draft.close_assign, hv, Draft.fill_cons]
    · rw [hd, hu]
  have hsize : (a.assign p key e).records.size = a.records.size := Array.size_modify
  refine ⟨fun q hq hr => ?_, fun i hi => ?_, ?_⟩
  · rw [hf.place q (hsize.symm ▸ hq) hr]
    exact hprospect _ fun q' hq' => by cases hq'; exact hr
  · rw [hf.root i hi]
    exact congrArg some (hprospect _ fun q hq => by cases hq)
  · have hcount : results.length = max a.roots.size (reach (⟨place, key, pos + 1, vs⟩ :: dues)) :=
      hf.count
    rw [hcount, reach_cons, reach_cons]
    cases place with
    | some q => simp [Due.reach]
    | none =>
      have hpos : pos < a.roots.size := (Array.getElem?_eq_some_iff.1 h).1
      cases vs with
      | nil =>
        simp only [Due.reach, ne_eq, not_true_eq_false, and_false, if_false, true_and,
          List.cons_ne_nil, not_false_eq_true, if_true, List.length_cons, List.length_nil]
        omega
      | cons w ws =>
        simp only [Due.reach, ne_eq, true_and, List.cons_ne_nil, not_false_eq_true, if_true,
          List.length_cons]
        omega

theorem sound_assign (hs : Sound a dues)
    (he : ∀ q, e = .record q → p < q ∧ q < a.records.size) : Sound (a.assign p key e) dues := by
  have hsize : (a.assign p key e).records.size = a.records.size := Array.size_modify
  refine ⟨?_, hsize.symm ▸ hs.root_lt, hs.root_unique, hsize.symm ▸ hs.placed⟩
  intro q d hd r hr
  rw [hsize]
  simp only [Arena.assign, Array.getElem?_modify] at hd
  by_cases hpq : p = q
  · rw [if_pos hpq] at hd
    obtain ⟨d', hd', rfl⟩ := Option.map_eq_some_iff.1 hd
    rcases Draft.mem_entries_assign hr with hr | hr
    · exact hs.forward q d' hd' r hr
    · exact hpq ▸ he r hr.symm
  · rw [if_neg hpq] at hd
    exact hs.forward q d hd r hr

theorem sound_next (hs : Sound a (⟨place, key, pos, v :: vs⟩ :: dues)) :
    Sound a (⟨place, key, pos + 1, vs⟩ :: dues) := by
  refine ⟨hs.forward, hs.root_lt, hs.root_unique, fun u hu q hq => ?_⟩
  rcases List.mem_cons.1 hu with rfl | hu
  · exact hs.placed ⟨place, key, pos, v :: vs⟩ (by simp) q hq
  · exact hs.placed u (List.mem_cons_of_mem _ hu) q hq

theorem leads_assign_value (h : Seated a place pos p) :
    Leads a (⟨place, key, pos, v :: vs⟩ :: dues)
      (a.assign p key (.value v)) (⟨place, key, pos + 1, vs⟩ :: dues) := fun hs =>
  ⟨sound_assign (sound_next hs) (by simp), fun _ _ hf => foretells_assign hs h rfl hf⟩

/-! ## A nested record -/

theorem sound_add (hs : Sound a dues) (hb : ∀ u ∈ below, u.place = some a.records.size) :
    Sound a.add.1 (dues ++ below) := by
  have hsize : a.add.1.records.size = a.records.size + 1 := Array.size_push _
  refine ⟨forward_push hs.forward _, fun i r hr => ?_, hs.root_unique, fun u hu q hq => ?_⟩
  · exact hsize ▸ Nat.lt_succ_of_lt (hs.root_lt i r hr)
  · rw [hsize]
    rcases List.mem_append.1 hu with hu | hu
    · exact ⟨Nat.lt_succ_of_lt (hs.placed u hu q hq).1, (hs.placed u hu q hq).2⟩
    · obtain rfl : a.records.size = q := Option.some.inj ((hb u hu).symm.trans hq)
      exact ⟨Nat.lt_succ_self _, fun i hi => Nat.lt_irrefl _ (hs.root_lt i _ hi)⟩

/-- A new record and what is due to it change nothing that is foretold of the others. -/
theorem foretells_add (hs : Sound a dues) (hb : ∀ u ∈ below, u.place = some a.records.size)
    (hf : Foretells a.add.1 (dues ++ below) final results) : Foretells a dues final results := by
  have hsize : a.add.1.records.size = a.records.size + 1 := Array.size_push _
  have hprospect : ∀ seat, a.add.1.draft seat = a.draft seat → seat ≠ .place a.records.size →
      a.add.1.prospect (dues ++ below) final seat = a.prospect dues final seat := by
    intro seat hd hseat
    rw [Arena.prospect, hd, Draft.fillAll_append,
      Draft.fillAll_of_share fun u hu => share_eq_nil_of_place (hb u hu) hseat]
    rfl
  have hrecord : ∀ q, q < a.records.size → a.add.1.records[q]? = a.records[q]? := by
    intro q hq
    simp [Arena.add, Array.getElem?_push, Nat.ne_of_lt hq]
  refine ⟨fun q hq hr => ?_, fun i hi => ?_, ?_⟩
  · rw [hf.place q (hsize ▸ Nat.lt_succ_of_lt hq) hr]
    refine hprospect _ (by rw [Arena.draft, hrecord q hq]; rfl) fun h => ?_
    cases h
    exact Nat.lt_irrefl _ hq
  · rw [hf.root i hi]
    refine congrArg some (hprospect _ ?_ (by simp))
    cases hr : a.roots[i]? with
    | none => simp [Arena.draft, Arena.add, hr]
    | some r =>
      have hroot : a.add.1.roots[i]? = some r := hr
      simp only [Arena.draft, hr, hroot, Option.bind_some, hrecord r (hs.root_lt i r hr)]
  · have hplaced : reach below = 0 := reach_of_placed fun u hu => by simp [hb u hu]
    have hcount := hf.count
    rw [reach_append, hplaced, Nat.max_zero] at hcount
    exact hcount

/-- The value that is due is a new record, which has to get its own values. -/
theorem leads_nested (h : Seated a place pos p)
    (hb : ∀ u ∈ below, u.place = some a.records.size)
    (hv : ∀ final, .obj ((Draft.fillAll (.place a.records.size) below []).members final) = v) :
    Leads a (⟨place, key, pos, v :: vs⟩ :: dues)
      (a.add.1.assign p key (.record a.records.size))
      (⟨place, key, pos + 1, vs⟩ :: (dues ++ below)) := by
  intro hs
  have hp : p < a.records.size := Seated.lt hs h
  have hsadd : Sound a.add.1 (⟨place, key, pos, v :: vs⟩ :: (dues ++ below)) := sound_add hs hb
  have hsize : a.add.1.records.size = a.records.size + 1 := Array.size_push _
  have hsizes : (a.add.1.assign p key (.record a.records.size)).records.size = a.records.size + 1 :=
    Array.size_modify.trans hsize
  refine ⟨sound_assign (sound_next hsadd) ?_, fun final results hf => ?_⟩
  · rintro q hq
    obtain rfl : a.records.size = q := Entry.record.inj hq
    exact ⟨hp, hsize ▸ Nat.lt_succ_self _⟩
  · have hnew : ∀ i : Nat, a.roots[i]? ≠ some a.records.size := fun i hi =>
      Nat.lt_irrefl _ (hs.root_lt i _ hi)
    have hempty : (a.add.1.assign p key (.record a.records.size)).draft
        (.place a.records.size) = [] := by
      rw [draft_assign_place, if_neg fun hpq => Nat.ne_of_lt hp hpq.1]
      simp [Arena.draft, Arena.add]
    -- nothing is due to the new record but its own values
    have hothers : ∀ u ∈ (⟨place, key, pos + 1, vs⟩ : Due) :: dues,
        u.share (.place a.records.size) = [] := by
      intro u hu
      have hne : u.place ≠ some a.records.size := by
        intro heq
        exact Nat.lt_irrefl _ ((sound_next hs).placed u hu _ heq).1
      simp [Due.share, hne]
    have hfinal := hf.place a.records.size (hsizes ▸ Nat.lt_succ_self _) hnew
    rw [Arena.prospect, hempty, ← List.cons_append, Draft.fillAll_append,
      Draft.fillAll_of_share hothers] at hfinal
    have hvalue : (Entry.record a.records.size).close final = v := hfinal.trans (hv final)
    exact foretells_add hs hb (foretells_assign hsadd h hvalue hf)

/-! ## The values of a field -/

theorem seated_placeFor : Seated (a.placeFor place pos).1 place pos (a.placeFor place pos).2 := by
  cases place with
  | some q => rfl
  | none =>
    have hlt : pos < (a.addRoots (pos + 1 - a.roots.size)).roots.size := by
      rw [size_addRoots]
      omega
    simp [Seated, Arena.placeFor, Arena.root, hlt]

/-- The roots up to a value's position are made when the value is due to a root. -/
theorem leads_placeFor : Leads a (⟨place, key, pos, v :: vs⟩ :: dues)
    (a.placeFor place pos).1 (⟨place, key, pos, v :: vs⟩ :: dues) := by
  cases place with
  | some q => exact .refl
  | none =>
    refine leads_addRoots _ fun _ => ?_
    simp only [reach_cons, Due.reach, ne_eq, true_and, List.cons_ne_nil, not_false_eq_true, if_true,
      List.length_cons]
    omega

variable {ε : Type} (w : Work ε)

theorem leads_assignValues (vs : List Json) : ∀ (pos : Nat) (a : Arena),
    Leads a (⟨w.place, w.key, pos, vs⟩ :: dues) (assignValues w pos a vs) dues := by
  induction vs with
  | nil => exact fun pos a => leads_done rfl
  | cons v vs ih =>
    intro pos a
    rw [assignValues]
    exact leads_placeFor.trans ((leads_assign_value seated_placeFor).trans (ih (pos + 1) _))

end

/-! ## Keys that are distinct -/

theorem distinct_iff {fields : List (String × FieldSpec)} :
    Distinct fields ↔ (fields.map (·.1)).Nodup ∧ ∀ c ∈ fields, DistinctBelow c.2 := by
  induction fields with
  | nil => simp [Distinct]
  | cons c rest ih =>
    obtain ⟨key, f⟩ := c
    simp only [Distinct, ih, List.map_cons, List.nodup_cons, List.mem_map, List.mem_cons,
      forall_eq_or_imp]
    constructor
    · rintro ⟨hne, hf, hn, hrest⟩
      exact ⟨⟨fun ⟨c, hc, hk⟩ => hne c hc hk, hn⟩, hf, hrest⟩
    · rintro ⟨⟨hne, hn⟩, hf, hrest⟩
      exact ⟨fun c hc hk => hne ⟨c, hc, hk⟩, hf, hn, hrest⟩

theorem distinctBelow_iff (f : FieldSpec) : DistinctBelow f ↔ Distinct f.children := by
  cases f
  rw [DistinctBelow]

/-- What is due under distinct keys becomes a member for each key. -/
theorem members_fillAll (final : Nat → Json) (seat : Seat) : ∀ {dues : List Due} {d : Draft},
    (dues.map (·.key)).Nodup → (∀ u ∈ dues, u.key ∉ d.map (·.1)) →
      (d.fillAll seat dues).members final =
        d.members final ++ dues.flatMap fun u => member u.key (u.share seat)
  | [], d, _, _ => by simp [Draft.fillAll]
  | u :: dues, d, hn, hd => by
    rw [List.map_cons, List.nodup_cons] at hn
    obtain ⟨hmembers, hkeys⟩ := Draft.members_fill final (hd u List.mem_cons_self) (u.share seat)
    have hrest : ∀ u' ∈ dues, u'.key ∉ (d.fill u.key (u.share seat)).map (·.1) := by
      intro u' hu' hk
      rcases hkeys _ hk with hk | hk
      · exact hd u' (List.mem_cons_of_mem _ hu') hk
      · exact hn.1 (hk ▸ List.mem_map_of_mem hu')
    rw [Draft.fillAll_cons, members_fillAll final seat hn.2 hrest, hmembers, List.flatMap_cons,
      List.append_assoc]

namespace Document

variable {ε : Type} (doc : Document ε)

/-- What is due for a field that is still to be resolved. -/
def due (w : Work ε) : Due := ⟨w.place, w.key, 0, doc.values w.element w.field⟩

/-- The work on the fields below a field, for one of the elements it selects. -/
def below (fields : List (String × FieldSpec)) (x : ε) (place : Nat) : List (Work ε) :=
  fields.map fun (key, f) => ⟨x, key, f, some place⟩

/-- The record of an element has what is due for the fields below. -/
theorem members_below {fields : List (String × FieldSpec)} (hd : Distinct fields) (x : ε) (q : Nat)
    (final : Nat → Json) :
    (Draft.fillAll (.place q) ((below fields x q).map doc.due) []).members final =
      doc.record x fields := by
  have hkeys : ((below fields x q).map doc.due).map (·.key) = fields.map (·.1) := by
    simp [below, due]
  rw [members_fillAll final _ (hkeys ▸ (distinct_iff.1 hd).1) (by simp), record_eq]
  simp [Draft.members, below, due, Due.share, List.flatMap_map]

end Document

end BrowserPlan.Extraction
