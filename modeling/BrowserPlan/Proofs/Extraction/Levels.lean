import BrowserPlan.Proofs.Extraction.Progress

/-!
# The worklist level by level

`step`, `level` and `levels` are what `resolve`, `resolveLevel` and `resolveLevels` do to an arena
where the document answers every question at once. `levels_eq_records`: what they come to is what
the recursion describes.
-/
namespace BrowserPlan.Extraction.Document

variable {ε : Type} (doc : Document ε)

/-- Resolves a field; tells the work that follows from it. -/
def step (a : Arena) (w : Work ε) : Arena × List (Work ε) :=
  if !w.field.isResolvable then (a, [])
  else if w.field.isStructural then assignElements w 0 a (doc.elements w.element w.field)
  else (assignValues w 0 a (doc.leaf w.element w.field), [])

/-- Resolves the fields of one level; tells the work of the next one. -/
def level : Arena → List (Work ε) → Arena × List (Work ε)
  | a, [] => (a, [])
  | a, w :: rest =>
    let (b, below) := doc.step a w
    let (c, next) := level b rest
    (c, below ++ next)

/-- Resolves the fields of so many levels. -/
def levels : Nat → Arena → List (Work ε) → Arena
  | 0, a, _ => a
  | n + 1, a, works => levels n (doc.level a works).1 (doc.level a works).2

variable {doc} {dues : List Due}

/-! ## What follows from a field -/

theorem assignElements_cons (w : Work ε) (pos : Nat) (a : Arena) (x : ε) (es : List ε) :
    assignElements w pos a (x :: es) =
      let b := (a.placeFor w.place pos).1
      let c := b.add.1.assign (a.placeFor w.place pos).2 w.key (.record b.records.size)
      ((assignElements w (pos + 1) c es).1,
        below w.field.children x b.records.size ++ (assignElements w (pos + 1) c es).2) := rfl

/-- The work below a field is on its own fields. -/
theorem mem_assignElements {w w' : Work ε} {es : List ε} : ∀ {pos : Nat} {a : Arena},
    w' ∈ (assignElements w pos a es).2 → ∃ c ∈ w.field.children, w'.field = c.2 := by
  induction es with
  | nil =>
    intro pos a h
    cases h
  | cons x es ih =>
    intro pos a h
    rw [assignElements_cons] at h
    rcases List.mem_append.1 h with h | h
    · obtain ⟨c, hc, rfl⟩ := List.mem_map.1 h
      exact ⟨c, hc, rfl⟩
    · exact ih h

theorem mem_step {a : Arena} {w w' : Work ε} (h : w' ∈ (doc.step a w).2) :
    ∃ c ∈ w.field.children, w'.field = c.2 := by
  unfold step at h
  split at h
  · cases h
  · split at h
    · exact mem_assignElements h
    · cases h

theorem mem_level {w' : Work ε} {works : List (Work ε)} : ∀ {a : Arena},
    w' ∈ (doc.level a works).2 → ∃ w ∈ works, ∃ c ∈ w.field.children, w'.field = c.2 := by
  induction works with
  | nil =>
    intro a h
    cases h
  | cons w works ih =>
    intro a h
    rw [level] at h
    rcases List.mem_append.1 h with h | h
    · exact ⟨w, by simp, mem_step h⟩
    · obtain ⟨v, hv, hc⟩ := ih h
      exact ⟨v, by simp [hv], hc⟩

/-! ## What is due, step by step -/

theorem leads_assignElements {w : Work ε} (hd : Distinct w.field.children) (es : List ε) :
    ∀ (pos : Nat) (a : Arena) (dues : List Due),
      Leads a (⟨w.place, w.key, pos, es.map fun x => .obj (doc.record x w.field.children)⟩ :: dues)
        (assignElements w pos a es).1 (dues ++ (assignElements w pos a es).2.map doc.due) := by
  induction es with
  | nil =>
    intro pos a dues
    have hdues : dues ++ [].map doc.due = dues := List.append_nil _
    rw [assignElements, hdues]
    exact leads_done rfl
  | cons x es ih =>
    intro pos a dues
    rw [assignElements_cons, List.map_append, ← List.append_assoc]
    refine leads_placeFor.trans ((leads_nested seated_placeFor ?_ ?_).trans (ih (pos + 1) _ _))
    · intro u hu
      obtain ⟨w', hw', rfl⟩ := List.mem_map.1 hu
      obtain ⟨c, -, rfl⟩ := List.mem_map.1 hw'
      rfl
    · exact fun final => congrArg Json.obj (doc.members_below hd x _ final)

variable (doc)

theorem leads_step {w : Work ε} (hd : DistinctBelow w.field) (a : Arena) (dues : List Due) :
    Leads a (doc.due w :: dues) (doc.step a w).1 (dues ++ (doc.step a w).2.map doc.due) := by
  rw [step, due, values_eq]
  by_cases hr : w.field.isResolvable = true
  · rw [hr, Bool.not_true, if_neg Bool.false_ne_true, if_neg Bool.false_ne_true]
    by_cases hs : w.field.isStructural = true
    · rw [if_pos hs, if_pos hs]
      exact leads_assignElements ((distinctBelow_iff _).1 hd) _ 0 a dues
    · rw [if_neg hs, if_neg hs, List.map_nil, List.append_nil]
      exact leads_assignValues w _ 0 a
  · rw [Bool.not_eq_true] at hr
    rw [hr, Bool.not_false, if_pos rfl, if_pos rfl, List.map_nil, List.append_nil]
    exact leads_done rfl

theorem leads_level {works : List (Work ε)} : ∀ (a : Arena) (dues : List Due),
    (∀ w ∈ works, DistinctBelow w.field) →
      Leads a (works.map doc.due ++ dues) (doc.level a works).1
        (dues ++ (doc.level a works).2.map doc.due) := by
  induction works with
  | nil =>
    intro a dues _
    rw [level, List.map_nil, List.append_nil]
    exact .refl
  | cons w works ih =>
    intro a dues hd
    have hstep := leads_step doc (hd w List.mem_cons_self) a (works.map doc.due ++ dues)
    have hrest := ih (doc.step a w).1 (dues ++ (doc.step a w).2.map doc.due) fun w' hw' =>
      hd w' (List.mem_cons_of_mem _ hw')
    rw [← List.append_assoc] at hrest
    have h := hstep.trans hrest
    rwa [List.append_assoc, ← List.map_append] at h

theorem fieldDepth_eq (f : FieldSpec) : Spec.fieldDepth f = Spec.depth f.children + 1 := by
  cases f
  rw [Spec.fieldDepth]

theorem fieldDepth_le {fields : List (String × FieldSpec)} {c : String × FieldSpec}
    (hc : c ∈ fields) : Spec.fieldDepth c.2 ≤ Spec.depth fields := by
  induction fields with
  | nil => cases hc
  | cons c' rest ih =>
    rw [Spec.depth]
    rcases List.mem_cons.1 hc with rfl | hc
    · exact Nat.le_max_left _ _
    · exact Nat.le_trans (ih hc) (Nat.le_max_right _ _)

/-- As many levels as the fields are deep leave nothing due. -/
theorem leads_levels (n : Nat) : ∀ {works : List (Work ε)} (a : Arena),
    (∀ w ∈ works, DistinctBelow w.field) → (∀ w ∈ works, Spec.fieldDepth w.field ≤ n) →
      Leads a (works.map doc.due) (doc.levels n a works) [] := by
  induction n with
  | zero =>
    intro works a _ hn
    cases works with
    | nil => exact .refl
    | cons w works =>
      have := hn w List.mem_cons_self
      rw [fieldDepth_eq] at this
      omega
  | succ n ih =>
    intro works a hd hn
    have hlevel := leads_level doc a [] hd
    rw [List.append_nil, List.nil_append] at hlevel
    refine hlevel.trans (ih _ (fun w' hw' => ?_) fun w' hw' => ?_)
    · obtain ⟨w, hw, c, hc, hf⟩ := mem_level hw'
      rw [hf]
      exact (distinct_iff.1 ((distinctBelow_iff _).1 (hd w hw))).2 c hc
    · obtain ⟨w, hw, c, hc, hf⟩ := mem_level hw'
      have h1 := hn w hw
      have h2 := fieldDepth_le hc
      rw [fieldDepth_eq] at h1
      rw [hf]
      omega

/-! ## From the beginning to the end -/

/-- The work on the fields of a specification. -/
def works (root : ε) (spec : Spec) : List (Work ε) := spec.map fun (key, f) => ⟨root, key, f, none⟩

/-- An arena to which nothing is due foretells what it tells. -/
theorem foretells_done {a : Arena} (hs : Sound a []) : Foretells a [] a.final a.results := by
  have hresults : a.results = a.roots.toList.map a.final := rfl
  have hprospect : ∀ {p d}, a.records[p]? = some d →
      a.final p = .obj ((d.close a.final).members a.final) := by
    intro p d hd
    rw [Draft.members_close]
    exact Arena.final_eq hs.forward hd
  refine ⟨fun p hp _ => ?_, fun i hi => ?_, ?_⟩
  · obtain ⟨d, hd⟩ : ∃ d, a.records[p]? = some d := ⟨_, Array.getElem?_eq_getElem hp⟩
    rw [hprospect hd, Arena.prospect, Arena.draft, hd]
    rfl
  · rw [hresults, List.length_map, Array.length_toList] at hi
    obtain ⟨r, hr⟩ : ∃ r, a.roots[i]? = some r := ⟨_, Array.getElem?_eq_getElem hi⟩
    obtain ⟨d, hd⟩ : ∃ d, a.records[r]? = some d :=
      ⟨_, Array.getElem?_eq_getElem (hs.root_lt i r hr)⟩
    rw [hresults, List.getElem?_map, Array.getElem?_toList, hr, Option.map_some, hprospect hd,
      Arena.prospect, Arena.draft, hr, Option.bind_some, hd]
    rfl
  · rw [hresults, List.length_map, Array.length_toList]
    simp [reach]

theorem row_eq (columns : List (String × List Json)) (i : Nat) :
    row columns i = columns.flatMap fun c => member c.1 c.2[i]?.toList := by
  induction columns with
  | nil => rfl
  | cons c columns ih =>
    obtain ⟨key, vs⟩ := c
    rw [List.flatMap_cons, ← ih]
    cases h : vs[i]? with
    | none => simp [row, h, member]
    | some v => simp [row, h, member]

/-- Without an arena, a root gets what is due to it from each field. -/
theorem prospect_works {root : ε} {spec : Spec} (hd : Distinct spec) (final : Nat → Json)
    (i : Nat) :
    ({} : Arena).prospect ((works root spec).map doc.due) final (.root i) =
      .obj (row (spec.map fun (key, f) => (key, doc.values root f)) i) := by
  have hkeys : ((works root spec).map doc.due).map (·.key) = spec.map (·.1) := by
    simp [works, due]
  have hempty : ({} : Arena).draft (.root i) = [] := rfl
  rw [Arena.prospect, hempty, Draft.close, List.map_nil,
    members_fillAll final _ (hkeys ▸ (distinct_iff.1 hd).1) (by simp), row_eq]
  simp [Draft.members, works, due, Due.share, List.flatMap_map]

theorem reach_works (root : ε) (spec : Spec) : reach ((works root spec).map doc.due) =
    ((spec.map fun (key, f) => (key, doc.values root f)).map fun c => c.2.length).foldr max 0 := by
  have hreach : ∀ c : String × FieldSpec,
      Due.reach ⟨none, c.1, 0, doc.values root c.2⟩ = (doc.values root c.2).length := by
    intro c
    by_cases hv : doc.values root c.2 = []
    · simp [Due.reach, hv]
    · simp [Due.reach, hv]
  simp only [reach, works, due, List.map_map, Function.comp_def, hreach]

/-- The worklist comes to the records that the recursion describes. -/
theorem levels_eq_records {root : ε} {spec : Spec} (hd : Distinct spec) :
    (doc.levels (Spec.depth spec) {} (works root spec)).results = doc.records root spec := by
  obtain ⟨hkeys, hbelow⟩ := distinct_iff.1 hd
  have hsound : Sound {} ((works root spec).map doc.due) := by
    refine ⟨?_, by simp, by simp, ?_⟩
    · intro p d h
      simp at h
    · intro u hu p hp
      obtain ⟨w, hw, rfl⟩ := List.mem_map.1 hu
      obtain ⟨c, -, rfl⟩ := List.mem_map.1 hw
      cases hp
  obtain ⟨hend, hback⟩ := leads_levels doc (Spec.depth spec) {}
    (fun w hw => by
      obtain ⟨c, hc, rfl⟩ := List.mem_map.1 hw
      exact hbelow c hc)
    (fun w hw => by
      obtain ⟨c, hc, rfl⟩ := List.mem_map.1 hw
      exact fieldDepth_le hc) hsound
  have hf := hback _ _ (foretells_done hend)
  have hcount := hf.count
  rw [reach_works, show ({} : Arena).roots.size = 0 from rfl, Nat.zero_max] at hcount
  refine List.ext_getElem? fun i => ?_
  rw [records, rows, List.getElem?_map]
  by_cases hi : i < (doc.levels (Spec.depth spec) {} (works root spec)).results.length
  · rw [hf.root i hi, prospect_works doc hd, List.getElem?_range (hcount ▸ hi)]
    rfl
  · have hi : (doc.levels (Spec.depth spec) {} (works root spec)).results.length ≤ i := by omega
    rw [List.getElem?_eq_none hi, List.getElem?_eq_none]
    · rfl
    · rw [List.length_range, ← hcount]
      exact hi

end BrowserPlan.Extraction.Document
