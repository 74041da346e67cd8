import BrowserPlan.Proofs.Extraction.Meaning

/-!
# Records under construction and when they are done

Once the place of every record has its final value, a draft can be closed: the places in it are
replaced by those values. Closing commutes with `assign`, so what a record will be is known from
what it is and from the values it has still to get (`fill`). `final_eq`: the values that an arena
gives its records in the end are those of their drafts, closed with these values themselves.
-/
namespace BrowserPlan.Extraction

/-- The value of an entry when `final` tells the records. -/
def Entry.close (final : Nat → Json) : Entry → Json
  | .value v => v
  | .record place => final place

/-- The cell with values for its entries. -/
def Cell.close (final : Nat → Json) : Cell → Cell
  | .one e => .one (.value (e.close final))
  | .several es => .several (es.map fun e => .value (e.close final))

def Cell.entries : Cell → List Entry
  | .one e => [e]
  | .several es => es

theorem Cell.entries_add (c : Cell) (e : Entry) : (c.add e).entries = c.entries ++ [e] := by
  cases c <;> rfl

namespace Draft

/-- The draft with values for its entries. -/
def close (final : Nat → Json) (d : Draft) : Draft := d.map fun (key, c) => (key, c.close final)

def entries (d : Draft) : List Entry := d.flatMap fun (_, c) => c.entries

/-- The members of the record that a draft comes to. -/
def members (final : Nat → Json) (d : Draft) : Json.Members :=
  d.map fun (key, c) => (key, match c with
    | .one e => e.close final
    | .several es => .arr (es.map (Entry.close final)))

/-- The draft with more values under a key. -/
def fill (d : Draft) (key : String) (vs : List Json) : Draft :=
  vs.foldl (fun d v => d.assign key (.value v)) d

section
variable {final other : Nat → Json} {d : Draft} {key : String}

theorem members_close : (d.close final).members other = d.members final := by
  simp only [members, close, List.map_map]
  refine List.map_congr_left fun c _ => ?_
  obtain ⟨key, c⟩ := c
  cases c with
  | one e => rfl
  | several es => simp [Cell.close, Entry.close]

theorem members_congr (h : ∀ q, .record q ∈ d.entries → final q = other q) :
    d.members final = d.members other := by
  have hentry : ∀ e ∈ d.entries, e.close final = e.close other := by
    intro e he
    cases e with
    | value v => rfl
    | record q => exact h q he
  refine List.map_congr_left fun c hc => ?_
  obtain ⟨key, c⟩ := c
  have hcell : ∀ e ∈ c.entries, e.close final = e.close other := fun e he =>
    hentry e (List.mem_flatMap.2 ⟨(key, c), hc, he⟩)
  cases c with
  | one e => simp [hcell e (by simp [Cell.entries])]
  | several es =>
    have := List.map_congr_left hcell
    simpa [Cell.entries] using this

/-! ## Values that are assigned -/

theorem close_assign (e : Entry) :
    (d.assign key e).close final = (d.close final).assign key (.value (e.close final)) := by
  induction d with
  | nil => rfl
  | cons c rest ih =>
    obtain ⟨k, c⟩ := c
    by_cases hk : (k == key) = true
    · simp only [assign, close, List.map_cons, hk, if_true]
      cases c <;> simp [Cell.add, Cell.close]
    · simp only [assign, close, List.map_cons, hk]
      exact congrArg _ ih

theorem entries_cons (c : Cell) (rest : Draft) :
    entries ((key, c) :: rest) = c.entries ++ entries rest := rfl

theorem mem_entries_assign {e e' : Entry} (h : e' ∈ (d.assign key e).entries) :
    e' ∈ d.entries ∨ e' = e := by
  induction d with
  | nil => exact .inr (by simpa [assign, entries, Cell.entries] using h)
  | cons c rest ih =>
    obtain ⟨k, c⟩ := c
    rw [assign] at h
    by_cases hk : (k == key) = true
    · rw [if_pos hk, entries_cons, List.mem_append, Cell.entries_add, List.mem_append,
        List.mem_singleton] at h
      rw [entries_cons, List.mem_append]
      rcases h with (h | h) | h
      · exact .inl (.inl h)
      · exact .inr h
      · exact .inl (.inr h)
    · rw [if_neg hk, entries_cons, List.mem_append] at h
      rw [entries_cons, List.mem_append]
      rcases h with h | h
      · exact .inl (.inl h)
      · exact (ih h).imp_left .inr

theorem fill_cons (v : Json) (vs : List Json) :
    d.fill key (v :: vs) = (d.assign key (.value v)).fill key vs := rfl

/-- The last key of a draft gets one more value. -/
theorem assign_last (hk : key ∉ d.map (·.1)) (c : Cell) (e : Entry) :
    (d ++ [(key, c)]).assign key e = d ++ [(key, c.add e)] := by
  induction d with
  | nil => simp [assign]
  | cons x rest ih =>
    obtain ⟨k, x⟩ := x
    simp only [List.map_cons, List.mem_cons, not_or] at hk
    simp [assign, Ne.symm hk.1, ih hk.2]

theorem assign_new (hk : key ∉ d.map (·.1)) (e : Entry) :
    d.assign key e = d ++ [(key, .one e)] := by
  induction d with
  | nil => rfl
  | cons x rest ih =>
    obtain ⟨k, x⟩ := x
    simp only [List.map_cons, List.mem_cons, not_or] at hk
    simp [assign, Ne.symm hk.1, ih hk.2]

theorem fill_several (hk : key ∉ d.map (·.1)) (es : List Entry) (vs : List Json) :
    (d ++ [(key, Cell.several es)]).fill key vs =
      d ++ [(key, Cell.several (es ++ vs.map Entry.value))] := by
  induction vs generalizing es with
  | nil => simp [fill]
  | cons v vs ih =>
    have hadd : (Cell.several es).add (.value v) = .several (es ++ [.value v]) := rfl
    rw [fill_cons, assign_last hk, hadd, ih]
    simp

/-- Values under a new key become a member of their own. -/
theorem members_fill (final : Nat → Json) (hk : key ∉ d.map (·.1)) (vs : List Json) :
    (d.fill key vs).members final = d.members final ++ member key vs ∧
      ∀ k, k ∈ (d.fill key vs).map (·.1) → k ∈ d.map (·.1) ∨ k = key := by
  match vs with
  | [] => exact ⟨by simp [fill, member], fun k h => .inl h⟩
  | [v] =>
    rw [fill_cons, assign_new hk]
    exact ⟨by simp [fill, members, member, Entry.close], by simp [fill]⟩
  | v :: w :: vs =>
    have hadd : (Cell.one (.value v)).add (.value w) = .several [.value v, .value w] := rfl
    rw [fill_cons, assign_new hk, fill_cons, assign_last hk, hadd, fill_several hk]
    refine ⟨?_, by simp⟩
    have hvs : (vs.map Entry.value).map (Entry.close final) = vs := by
      rw [List.map_map]
      exact List.map_id _
    simp [members, member, Entry.close, hvs]

end
end Draft

/-! ## The end of an arena -/

namespace Arena

/-- The record at a place in the end. -/
def final (a : Arena) (place : Nat) : Json :=
  a.recordValues.getD (a.records.size - 1 - place) .null

/-- The records of a stretch of an arena, from the last one backwards. -/
def backwards (count : Nat) (ds : List Draft) : Array Json :=
  ds.foldr (fun d later => later.push (recordValue count later d)) #[]

/-- All records that a record holds lie behind it. -/
def Forward (a : Arena) : Prop :=
  ∀ p d, a.records[p]? = some d → ∀ q, .record q ∈ d.entries → p < q ∧ q < a.records.size

theorem recordValue_eq (count : Nat) (later : Array Json) (d : Draft) :
    recordValue count later d = .obj (d.members fun p => later.getD (count - 1 - p) .null) := by
  have hentry : entryValue count later = Entry.close fun p => later.getD (count - 1 - p) .null := by
    funext e
    cases e <;> rfl
  rw [recordValue, hentry]
  rfl

theorem size_backwards (count : Nat) (ds : List Draft) :
    (backwards count ds).size = ds.length := by
  induction ds with
  | nil => rfl
  | cons d ds ih =>
    rw [backwards, List.foldr_cons, Array.size_push, List.length_cons]
    exact congrArg (· + 1) ih

/-- Records further in front do not change those behind them. -/
theorem getD_backwards_append (count : Nat) (front ds : List Draft) {i : Nat} (h : i < ds.length) :
    (backwards count (front ++ ds)).getD i .null = (backwards count ds).getD i .null := by
  induction front with
  | nil => rfl
  | cons d front ih =>
    rw [← ih]
    have hi : i < (backwards count (front ++ ds)).size := by
      rw [size_backwards, List.length_append]
      omega
    have hpush : backwards count (d :: front ++ ds) = (backwards count (front ++ ds)).push
        (recordValue count (backwards count (front ++ ds)) d) := rfl
    rw [hpush]
    simp [Array.getD_eq_getD_getElem?, Array.getElem?_push, Nat.ne_of_lt hi]

theorem getD_backwards_cons (count : Nat) (front : List Draft) (d : Draft) (ds : List Draft) :
    (backwards count (front ++ d :: ds)).getD ds.length .null =
      recordValue count (backwards count ds) d := by
  have hpush : backwards count (d :: ds) =
      (backwards count ds).push (recordValue count (backwards count ds) d) := rfl
  rw [getD_backwards_append _ _ _ (by simp), hpush, ← size_backwards count ds]
  simp [Array.getD_eq_getD_getElem?]

/-- In the end a record has the value of its draft, closed with the values in the end. -/
theorem final_eq {a : Arena} (hf : a.Forward) {p : Nat} {d : Draft} (hd : a.records[p]? = some d) :
    a.final p = .obj (d.members a.final) := by
  obtain ⟨front, behind, hsplit, hlen⟩ : ∃ front behind : List Draft,
      a.records.toList = front ++ d :: behind ∧ behind.length = a.records.size - 1 - p := by
    obtain ⟨hp, rfl⟩ := Array.getElem?_eq_some_iff.1 hd
    refine ⟨a.records.toList.take p, a.records.toList.drop (p + 1), ?_, ?_⟩
    · rw [← Array.getElem_toList hp, List.getElem_cons_drop, List.take_append_drop]
    · rw [List.length_drop, Array.length_toList]
      omega
  have hfinal : ∀ q, a.final q =
      (backwards a.records.size (front ++ d :: behind)).getD (a.records.size - 1 - q) .null := by
    intro q
    rw [← hsplit]
    rfl
  rw [hfinal, ← hlen, getD_backwards_cons, recordValue_eq]
  refine congrArg Json.obj (Draft.members_congr fun q hq => ?_)
  -- the records behind had their values before this one
  obtain ⟨hpq, hqs⟩ := hf p d hd q hq
  rw [hfinal, List.append_cons, getD_backwards_append _ _ _ (by omega)]

end Arena
end BrowserPlan.Extraction
