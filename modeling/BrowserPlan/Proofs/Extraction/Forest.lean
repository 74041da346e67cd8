import BrowserPlan.Proofs.Extraction.Kept
import BrowserPlan.Proofs.Extraction.Levels
import Mathlib.Data.List.Perm.Lattice

/-!
# Records as trees

An arena that was made by its own operations (`Arena.Made`) is a forest: each record is a root, or one record in
front of it holds it, once (`Made.isForest`). What a record holds under a key is what it was assigned there, a single
value as it is and several as a list of them all (`Made.holds`).

`Unfolds` puts into a record the records that it holds, as far down as they go, and notes which ones it comes by. It
comes to an end, with the values that the arena tells, and from all roots together it comes by every record once
(`Made.unfolds`). The worklist does nothing else to its arena than what `Made` allows (`made_assignValues`,
`made_assignElements`).
-/
namespace BrowserPlan.Extraction

/-- A value that a record was assigned. -/
structure Assignment where
  place : Nat
  key : String
  entry : Entry

/-- The values that a record was assigned under a key, in order. -/
def assigned (log : List Assignment) (p : Nat) (key : String) : List Entry :=
  (log.filter fun x => x.place == p && x.key == key).map (·.entry)

/-- An arena that came about by its operations, and all that was assigned on the way: a root is added, a value is
assigned to a record, or a new record is. -/
inductive Arena.Made : Arena → List Assignment → Prop where
  | start : Made {} []
  | root {a log} (h : Made a log) : Made a.addRoot log
  | value {a log} (p key v) (hp : p < a.records.size) (h : Made a log) :
    Made (a.assign p key (.value v)) (log ++ [⟨p, key, .value v⟩])
  | nested {a log} (p key) (hp : p < a.records.size) (h : Made a log) :
    Made (a.add.1.assign p key (.record a.records.size)) (log ++ [⟨p, key, .record a.records.size⟩])

/-- What is in a cell that was assigned these values. -/
def Cell.ofEntries : List Entry → Option Cell
  | [] => none
  | [e] => some (.one e)
  | es => some (.several es)

/-- What is in a cell, or in none yet, with one more value. -/
def Cell.more (c : Option Cell) (e : Entry) : Cell :=
  match c with
  | none => .one e
  | some c => c.add e

/-- A record that has under each key what it was assigned there: a single value as it is, and several as a list of
them all, in order. -/
structure Draft.Holds (d : Draft) (given : String → List Entry) : Prop where
  one : ∀ key e, (key, Cell.one e) ∈ d ↔ given key = [e]
  several : ∀ key es, (key, Cell.several es) ∈ d ↔ given key = es ∧ 2 ≤ es.length

/-- The place of the record that an entry is. -/
def Entry.place? : Entry → Option Nat
  | .value _ => none
  | .record p => some p

/-- The places of the records that a record holds, one for each time it holds it. -/
def Draft.references (d : Draft) : List Nat := d.entries.filterMap Entry.place?

namespace Arena

/-- The places of all records that are held, one for each time they are. -/
def references (a : Arena) : List Nat := a.records.toList.flatMap Draft.references

/-- Every record is a root, or one record in front of it holds it once; no record holds a root, and no record is a
root twice. -/
structure IsForest (a : Arena) : Prop where
  forward : a.Forward
  inside : ∀ p ∈ a.roots, p < a.records.size
  distinct : a.roots.toList.Nodup
  root_free : ∀ p ∈ a.roots, a.references.count p = 0
  held_once : ∀ p < a.records.size, p ∉ a.roots → a.references.count p = 1

/-- The record at a place with all records that it holds put in, and the places that are visited to this end, in
order. -/
inductive Unfolds (a : Arena) : Nat → Json → List Nat → Prop where
  | record {p d} {value : Nat → Json} {visited : Nat → List Nat} (hd : a.records[p]? = some d)
    (h : ∀ q, .record q ∈ d.entries → Unfolds a q (value q) (visited q)) :
    Unfolds a p (.obj (d.members value)) (p :: d.references.flatMap visited)

end Arena

section
variable {a : Arena} {log : List Assignment} {d : Draft} {key k : String} {e : Entry} {p q : Nat}

/-! ## What a record holds -/

theorem Cell.ofEntries_concat (es : List Entry) (e : Entry) :
    ofEntries (es ++ [e]) = some (more (ofEntries es) e) := by
  match es with
  | [] => rfl
  | [_] => rfl
  | _ :: _ :: _ => rfl

theorem Cell.ofEntries_eq_one {es : List Entry} : ofEntries es = some (.one e) ↔ es = [e] := by
  match es with
  | [] | [_] | _ :: _ :: _ => simp [ofEntries]

theorem Cell.ofEntries_eq_several {es fs : List Entry} :
    ofEntries es = some (.several fs) ↔ es = fs ∧ 2 ≤ fs.length := by
  match es with
  | [] | [_] =>
    simp only [ofEntries, reduceCtorEq, Option.some.injEq, false_iff, not_and]
    rintro rfl
    simp
  | _ :: _ :: _ =>
    simp only [ofEntries, Option.some.injEq, several.injEq, iff_self_and]
    rintro rfl
    simp

theorem assigned_concat (log : List Assignment) (x : Assignment) (p : Nat) (key : String) :
    assigned (log ++ [x]) p key =
      if x.place = p ∧ x.key = key then assigned log p key ++ [x.entry] else assigned log p key := by
  by_cases h : x.place = p ∧ x.key = key
  · simp [assigned, h]
  · simp only [not_and_or] at h
    rcases h with h | h <;> simp [assigned, h]

namespace Draft

theorem lookup_cons (c : Cell) (rest : Draft) :
    List.lookup k ((key, c) :: rest) = if k = key then some c else List.lookup k rest := by
  by_cases hk : k = key
  · rw [List.lookup_cons, beq_iff_eq.2 hk, if_pos hk]
  · rw [List.lookup_cons, beq_false_of_ne hk, if_neg hk]

theorem lookup_assign (k : String) : (d.assign key e).lookup k =
    if k = key then some (Cell.more (d.lookup key) e) else d.lookup k := by
  induction d with
  | nil => exact lookup_cons _ _
  | cons x rest ih =>
    obtain ⟨key', c⟩ := x
    rw [assign, lookup_cons, lookup_cons]
    by_cases hkey : key' = key
    · rw [if_pos (beq_iff_eq.2 hkey), lookup_cons, hkey]
      split <;> simp [Cell.more]
    · rw [if_neg (fun h => hkey (beq_iff_eq.1 h)), lookup_cons, ih, if_neg (Ne.symm hkey)]
      by_cases hk : k = key
      · have hne : k ≠ key' := fun h => hkey (h.symm.trans hk)
        rw [if_pos hk, if_pos hk, if_neg hne]
      · rw [if_neg hk, if_neg hk]

theorem keys_assign : (d.assign key e).map Prod.fst =
    if key ∈ d.map Prod.fst then d.map Prod.fst else (d.map Prod.fst).concat key := by
  induction d with
  | nil => rfl
  | cons x rest ih =>
    obtain ⟨key', c⟩ := x
    rw [assign]
    by_cases hkey : key' = key
    · simp [hkey]
    · rw [if_neg (fun h => hkey (beq_iff_eq.1 h)), List.map_cons, List.map_cons, ih]
      by_cases hmem : key ∈ rest.map Prod.fst
      · rw [if_pos hmem, if_pos (List.mem_cons_of_mem _ hmem)]
      · rw [if_neg hmem, if_neg (by simpa [Ne.symm hkey] using hmem), List.concat_cons]

theorem nodup_assign (h : (d.map Prod.fst).Nodup) : ((d.assign key e).map Prod.fst).Nodup := by
  rw [keys_assign]
  split
  case isTrue => exact h
  case isFalse hkey => exact h.concat hkey

/-- Where no key is there twice, what is found under a key is what there is. -/
theorem lookup_eq_some_iff (h : (d.map Prod.fst).Nodup) {c : Cell} : d.lookup key = some c ↔ (key, c) ∈ d := by
  induction d with
  | nil => simp
  | cons x rest ih =>
    obtain ⟨key', c'⟩ := x
    obtain ⟨habsent, hrest⟩ := List.nodup_cons.1 h
    rw [lookup_cons, List.mem_cons, Prod.mk.injEq]
    by_cases hkey : key = key'
    · subst hkey
      have hno : (key, c) ∉ rest := fun hmem => habsent (List.mem_map.2 ⟨_, hmem, rfl⟩)
      simp [hno, eq_comm]
    · simp [hkey, ih hrest]

end Draft

/-- An arena in which every record has what the log tells of it. -/
structure Arena.Tells (a : Arena) (log : List Assignment) : Prop where
  inside : ∀ x ∈ log, x.place < a.records.size
  keys : ∀ (p : Nat) d, a.records[p]? = some d → (d.map Prod.fst).Nodup
  cells : ∀ (p : Nat) d, a.records[p]? = some d → ∀ key, d.lookup key = Cell.ofEntries (assigned log p key)

namespace Arena.Tells

/-- A new record has nothing, and the log tells nothing of it. -/
theorem push (h : Tells a log) (roots : Array Nat) : Tells { records := a.records.push [], roots := roots } log := by
  have hcases : ∀ (p : Nat) d, (a.records.push [])[p]? = some d →
      a.records[p]? = some d ∨ (p = a.records.size ∧ d = []) := by
    intro p d hd
    rw [Array.getElem?_push] at hd
    split at hd
    case isTrue hp => exact .inr ⟨hp, (Option.some.inj hd).symm⟩
    case isFalse => exact .inl hd
  refine ⟨fun x hx => ?_, fun p d hd => ?_, fun p d hd key => ?_⟩
  · rw [Array.size_push]
    exact Nat.lt_succ_of_lt (h.inside x hx)
  · rcases hcases p d hd with hd | ⟨-, rfl⟩
    · exact h.keys p d hd
    · exact List.nodup_nil
  · rcases hcases p d hd with hd | ⟨rfl, rfl⟩
    · exact h.cells p d hd key
    · have hnone : assigned log a.records.size key = [] := by
        rw [assigned, List.map_eq_nil_iff, List.filter_eq_nil_iff]
        intro x hx
        simp [Nat.ne_of_lt (h.inside x hx)]
      rw [hnone]
      rfl

theorem assign (h : Tells a log) (hp : p < a.records.size) (key : String) (e : Entry) :
    Tells (a.assign p key e) (log ++ [⟨p, key, e⟩]) := by
  have hsize : (a.assign p key e).records.size = a.records.size := Array.size_modify
  have hcases : ∀ (q : Nat) d, (a.assign p key e).records[q]? = some d →
      (p ≠ q ∧ a.records[q]? = some d) ∨ (p = q ∧ ∃ d', a.records[q]? = some d' ∧ d'.assign key e = d) := by
    intro q d hd
    rw [Arena.assign, Array.getElem?_modify] at hd
    split at hd
    case isTrue hpq => exact .inr ⟨hpq, Option.map_eq_some_iff.1 hd⟩
    case isFalse hpq => exact .inl ⟨hpq, hd⟩
  refine ⟨fun x hx => ?_, fun q d hd => ?_, fun q d hd k => ?_⟩
  · rw [hsize]
    rcases List.mem_append.1 hx with hx | hx
    · exact h.inside x hx
    · exact List.mem_singleton.1 hx ▸ hp
  · rcases hcases q d hd with ⟨-, hd⟩ | ⟨-, d', hd', rfl⟩
    · exact h.keys q d hd
    · exact Draft.nodup_assign (h.keys q d' hd')
  · rw [assigned_concat]
    rcases hcases q d hd with ⟨hpq, hd⟩ | ⟨rfl, d', hd', rfl⟩
    · rw [if_neg fun hx => hpq hx.1]
      exact h.cells q d hd k
    · rw [Draft.lookup_assign, h.cells p d' hd', h.cells p d' hd']
      by_cases hk : k = key
      · rw [if_pos hk, if_pos ⟨rfl, hk.symm⟩, Cell.ofEntries_concat, hk]
      · rw [if_neg hk, if_neg fun hx => hk hx.2.symm]

end Arena.Tells

theorem Arena.Made.tells (h : a.Made log) : a.Tells log := by
  induction h with
  | start => exact ⟨nofun, fun p d hd => by simp at hd, fun p d hd => by simp at hd⟩
  | root _ ih => exact ih.push _
  | value p key v hp _ ih => exact ih.assign hp key _
  | nested p key hp _ ih =>
    exact (ih.push _).assign (Nat.lt_of_lt_of_eq (Nat.lt_succ_of_lt hp) (Array.size_push _).symm) key _

/-- Every record has what it was assigned. -/
theorem Arena.Made.holds (h : a.Made log) (hd : a.records[p]? = some d) : d.Holds (assigned log p) := by
  have hcell : ∀ key c, (key, c) ∈ d ↔ Cell.ofEntries (assigned log p key) = some c := fun key c => by
    rw [← Draft.lookup_eq_some_iff (h.tells.keys p d hd), h.tells.cells p d hd]
  exact ⟨fun key e => (hcell key _).trans Cell.ofEntries_eq_one,
    fun key es => (hcell key _).trans Cell.ofEntries_eq_several⟩

/-! ## Who holds whom -/

theorem Draft.mem_references : q ∈ d.references ↔ .record q ∈ d.entries := by
  rw [Draft.references, List.mem_filterMap]
  constructor
  · rintro ⟨e, he, hq⟩
    cases e with
    | value v => cases hq
    | record q' =>
      cases hq
      exact he
  · exact fun h => ⟨_, h, rfl⟩

theorem Draft.entries_assign_perm : (d.assign key e).entries.Perm (d.entries ++ [e]) := by
  induction d with
  | nil => exact .refl _
  | cons x rest ih =>
    obtain ⟨key', c⟩ := x
    rw [Draft.assign]
    split
    · rw [Draft.entries_cons, Draft.entries_cons, Cell.entries_add, List.append_assoc, List.append_assoc]
      exact List.perm_append_comm.append_left _
    · rw [Draft.entries_cons, Draft.entries_cons, List.append_assoc]
      exact ih.append_left _

namespace Arena

theorem references_push (roots : Array Nat) :
    references { records := a.records.push [], roots := roots } = a.references := by
  rw [references, Array.toList_push, List.flatMap_append]
  exact List.append_nil _

theorem references_assign_perm (hp : p < a.records.size) :
    (a.assign p key e).references.Perm (a.references ++ e.place?.toList) := by
  have hmodify : (a.assign p key e).records.toList = a.records.toList.modify p fun d => d.assign key e :=
    Array.toList_modify
  obtain ⟨front, d, behind, hrecords, -, hassign⟩ :=
    List.exists_of_modify (fun d : Draft => d.assign key e) (Array.length_toList.symm ▸ hp)
  have hd : (Draft.references (d.assign key e)).Perm (Draft.references d ++ e.place?.toList) := by
    have h : (Draft.references (d.assign key e)).Perm ((d.entries ++ [e]).filterMap Entry.place?) :=
      Draft.entries_assign_perm.filterMap _
    rw [List.filterMap_append] at h
    cases he : e.place? with
    | none => simpa [Draft.references, he] using h
    | some q => simpa [Draft.references, he] using h
  rw [references, references, hmodify, hassign, hrecords]
  simp only [List.flatMap_append, List.flatMap_cons, List.append_assoc]
  refine List.Perm.append_left _ ((hd.append_right _).trans ?_)
  rw [List.append_assoc]
  exact List.perm_append_comm.append_left _

namespace Made

theorem keeps (h : a.Made log) : ∃ shown, Keeps (fun _ => True) a shown := by
  induction h with
  | start => exact ⟨_, .start⟩
  | root _ ih => exact ih.imp fun _ h => h.addRoot
  | value p key v hp _ ih =>
    obtain ⟨shown, h⟩ := ih
    exact ⟨_, h.assign_value key hp⟩
  | nested p key hp _ ih => exact ih.imp fun _ h => h.nested key hp

/-- Every record is a root or held, and either only once. -/
theorem held_perm (h : a.Made log) : (a.roots.toList ++ a.references).Perm (List.range a.records.size) := by
  induction h with
  | start => exact .refl _
  | @root a log _ ih =>
    rw [size_records_addRoot, List.range_succ, addRoot, references_push, Array.toList_push, List.append_assoc]
    exact (List.perm_append_comm.append_left _).trans (List.append_assoc .. ▸ ih.append_right _)
  | @value a log p key v hp _ ih =>
    have hsize : (a.assign p key (.value v)).records.size = a.records.size := Array.size_modify
    have hrefs : (a.assign p key (.value v)).references.Perm (a.references ++ []) := references_assign_perm hp
    rw [List.append_nil] at hrefs
    rw [hsize]
    exact (hrefs.append_left _).trans ih
  | @nested a log p key hp _ ih =>
    have hadd : a.add.1.records.size = a.records.size + 1 := Array.size_push _
    have hsize : (a.add.1.assign p key (.record a.records.size)).records.size = a.records.size + 1 :=
      Array.size_modify.trans hadd
    have hrefs : (a.add.1.assign p key (.record a.records.size)).references.Perm
        (a.add.1.references ++ [a.records.size]) := references_assign_perm (hadd ▸ Nat.lt_succ_of_lt hp)
    have hsame : a.add.1.references = a.references := references_push _
    rw [hsame] at hrefs
    rw [hsize, List.range_succ]
    exact (hrefs.append_left _).trans (List.append_assoc .. ▸ ih.append_right _)

/-- An arena that was made by its operations is a forest. -/
theorem isForest (h : a.Made log) : a.IsForest := by
  obtain ⟨shown, hkeeps⟩ := h.keeps
  have hnodup := h.held_perm.nodup_iff.2 List.nodup_range
  obtain ⟨hroots, hrefs, hapart⟩ := List.nodup_append.1 hnodup
  refine ⟨hkeeps.forward, hkeeps.roots, hroots, fun p hp => ?_, fun p hp hroot => ?_⟩
  · exact List.count_eq_zero.2 fun hmem => hapart p (Array.mem_toList_iff.2 hp) p hmem rfl
  · have hmem : p ∈ a.roots.toList ++ a.references := h.held_perm.mem_iff.2 (List.mem_range.2 hp)
    rcases List.mem_append.1 hmem with hmem | hmem
    · exact absurd (Array.mem_toList_iff.1 hmem) hroot
    · exact List.count_eq_one_of_mem hrefs hmem

end Made

/-! ## Records put into records -/

namespace Unfolds

variable {v v' : Json} {visits visits' : List Nat}

theorem unique (h : a.Unfolds p v visits) (h' : a.Unfolds p v' visits') : v = v' ∧ visits = visits' := by
  induction h generalizing v' visits' with
  | @record p d value visited hd _ ih =>
    cases h' with
    | @record _ d' value' visited' hd' h' =>
      obtain rfl : d = d' := Option.some.inj (hd.symm.trans hd')
      have hvalue : d.members value = d.members value' := Draft.members_congr fun q hq => (ih q hq (h' q hq)).1
      have hvisited : d.references.flatMap visited = d.references.flatMap visited' :=
        List.flatMap_congr fun q hq =>
          have hq := Draft.mem_references.1 hq
          (ih q hq (h' q hq)).2
      exact ⟨congrArg _ hvalue, congrArg _ hvisited⟩

/-- Since records lie in front of those they hold, the way comes to an end, with the value that the record has. -/
theorem exists_visits (hf : a.Forward) (hp : p < a.records.size) : ∃ visits, a.Unfolds p (a.final p) visits := by
  induction hn : a.records.size - p using Nat.strongRecOn generalizing p with
  | _ n ih =>
    have hd := Array.getElem?_eq_getElem hp
    have hbelow : ∀ q, .record q ∈ a.records[p].entries → ∃ visits, a.Unfolds q (a.final q) visits := by
      intro q hq
      obtain ⟨hpq, hlt⟩ := hf p _ hd q hq
      exact ih _ (by omega) hlt rfl
    choose! visited hvisited using hbelow
    rw [final_eq hf hd]
    exact ⟨_, .record hd hvisited⟩

end Unfolds

/-- If the records from one place on are held by these holders or by one another, then the ways from the holders come
by each of them once. -/
theorem visits_perm_range' {refs visits : Nat → List Nat} (n : Nat) : ∀ (p : Nat) (holders : List Nat),
    (∀ q ∈ List.range' p n, visits q = q :: (refs q).flatMap visits) →
      (∀ q ∈ List.range' p n, ∀ r ∈ refs q, q < r) →
        (holders ++ (List.range' p n).flatMap refs).Perm (List.range' p n) →
          (holders.flatMap visits).Perm (List.range' p n) := by
  induction n with
  | zero =>
    intro p holders _ _ hheld
    obtain ⟨rfl, -⟩ := List.append_eq_nil_iff.1 hheld.eq_nil
    exact .refl _
  | succ n ih =>
    intro p holders hvisits hforward hheld
    rw [List.range'_succ, List.flatMap_cons] at hheld
    rw [List.range'_succ] at hvisits hforward ⊢
    -- nobody but a holder can hold the first record, as all records lie in front of those they hold
    have hfirst : p ∈ holders := by
      rcases List.mem_append.1 (hheld.mem_iff.2 List.mem_cons_self) with h | h
      · exact h
      · obtain ⟨q, hq, hp⟩ : ∃ q ∈ p :: List.range' (p + 1) n, p ∈ refs q :=
          List.mem_flatMap.1 (by rwa [List.flatMap_cons])
        have hqp := hforward q hq p hp
        rcases List.mem_cons.1 hq with rfl | hq
        · exact absurd hqp (Nat.lt_irrefl _)
        · have := (List.mem_range'_1.1 hq).1
          omega
    obtain ⟨others, hothers⟩ : ∃ others, holders.Perm (p :: others) := ⟨_, List.perm_cons_erase hfirst⟩
    have hrest : ((others ++ refs p) ++ (List.range' (p + 1) n).flatMap refs).Perm (List.range' (p + 1) n) := by
      have h := (hothers.append_right _).symm.trans hheld
      rw [List.cons_append, ← List.append_assoc] at h
      exact h.cons_inv
    have hbelow := ih (p + 1) (others ++ refs p) (fun q hq => hvisits q (List.mem_cons_of_mem _ hq))
      (fun q hq => hforward q (List.mem_cons_of_mem _ hq)) hrest
    calc (holders.flatMap visits).Perm ((p :: others).flatMap visits) := hothers.flatMap_right _
      _ = p :: ((refs p).flatMap visits ++ others.flatMap visits) := by
        rw [List.flatMap_cons, hvisits p List.mem_cons_self, List.cons_append]
      _ |>.Perm (p :: (others ++ refs p).flatMap visits) := by
        rw [List.flatMap_append]
        exact List.perm_append_comm.cons _
      _ |>.Perm (p :: List.range' (p + 1) n) := hbelow.cons _

/-- The places of the records that the record at a place holds. -/
def referencesAt (a : Arena) (p : Nat) : List Nat := Draft.references ((a.records[p]?).getD [])

theorem references_eq : a.references = (List.range' 0 a.records.size).flatMap a.referencesAt := by
  have hrecords : a.records.toList = (List.range' 0 a.records.size).map fun p => (a.records[p]?).getD [] :=
    List.ext_getElem (by simp) fun p hp _ => by
      have hp : p < a.records.size := hp
      simp [hp]
  rw [references, hrecords, List.flatMap_map]
  rfl

theorem referencesAt_eq (hd : a.records[p]? = some d) : a.referencesAt p = d.references := by
  rw [referencesAt, hd]
  rfl

theorem Unfolds.visits_eq {visits : Nat → List Nat} (hf : a.Forward)
    (hvisits : ∀ p < a.records.size, a.Unfolds p (a.final p) (visits p)) (hp : p < a.records.size) :
    visits p = p :: (a.referencesAt p).flatMap visits := by
  have hd := Array.getElem?_eq_getElem hp
  have hbelow : ∀ q, .record q ∈ a.records[p].entries → a.Unfolds q (a.final q) (visits q) :=
    fun q hq => hvisits q (hf p _ hd q hq).2
  rw [referencesAt_eq hd]
  exact ((hvisits p hp).unique (.record hd hbelow)).2

/-- Putting records into a record comes to an end, with its value in the end, and in one way only; from all roots
together it comes by every record once. -/
theorem Made.unfolds (h : a.Made log) : ∃ visits : Nat → List Nat,
    (∀ p < a.records.size, ∀ v vs, a.Unfolds p v vs ↔ v = a.final p ∧ vs = visits p) ∧
      (a.roots.toList.flatMap visits).Perm (List.range a.records.size) := by
  have hforward := h.isForest.forward
  have hexists : ∀ p, p < a.records.size → ∃ vs, a.Unfolds p (a.final p) vs :=
    fun p hp => Unfolds.exists_visits hforward hp
  choose! visits hvisits using hexists
  have hlt : ∀ p ∈ List.range' 0 a.records.size, p < a.records.size := fun p hp => by
    have := (List.mem_range'_1.1 hp).2
    omega
  have hbehind : ∀ p ∈ List.range' 0 a.records.size, ∀ q ∈ a.referencesAt p, p < q := by
    intro p hp q hq
    have hd := Array.getElem?_eq_getElem (hlt p hp)
    rw [referencesAt_eq hd] at hq
    exact (hforward p _ hd q (Draft.mem_references.1 hq)).1
  have hheld := h.held_perm
  rw [references_eq, List.range_eq_range'] at hheld
  refine ⟨visits, fun p hp v vs => ⟨fun hv => hv.unique (hvisits p hp), ?_⟩, ?_⟩
  · rintro ⟨rfl, rfl⟩
    exact hvisits p hp
  · rw [List.range_eq_range']
    exact visits_perm_range' _ 0 _ (fun p hp => Unfolds.visits_eq hforward hvisits (hlt p hp)) hbehind hheld

end Arena

/-! ## Work -/

section
variable {ε : Type} {w : Work ε}

/-- The record for the next value is there, made where it was missing. -/
theorem made_placeFor (pos : Nat) (hw : w.IsPlaced a) (h : a.Made log) :
    (a.placeFor w.place pos).1.Made log ∧ (a.placeFor w.place pos).2 < (a.placeFor w.place pos).1.records.size ∧
      a.records.size ≤ (a.placeFor w.place pos).1.records.size := by
  obtain ⟨shown, hkeeps⟩ := h.keeps
  obtain ⟨hgrows, hlt⟩ := grows_placeFor pos hw hkeeps
  refine ⟨?_, hlt, hgrows.size⟩
  cases w.place with
  | some q => exact h
  | none =>
    have hroots : ∀ (n : Nat) {a : Arena}, a.Made log → (a.addRoots n).Made log := by
      intro n
      induction n with
      | zero => exact fun h => h
      | succ n ih => exact fun h => ih h.root
    exact hroots _ h

/-- The values of a leaf are assigned one after the other. -/
theorem made_assignValues (vs : List Json) : ∀ (pos : Nat) {a : Arena} {log : List Assignment}, w.IsPlaced a →
    a.Made log → (∃ more, (assignValues w pos a vs).Made (log ++ more)) ∧
      a.records.size ≤ (assignValues w pos a vs).records.size := by
  induction vs with
  | nil => exact fun _ _ _ _ h => ⟨⟨[], by rwa [List.append_nil]⟩, Nat.le_refl _⟩
  | cons v vs ih =>
    intro pos a log hw h
    obtain ⟨hplace, hlt, hsize⟩ := made_placeFor pos hw h
    have hfirst : a.records.size ≤
        ((a.placeFor w.place pos).1.assign (a.placeFor w.place pos).2 w.key (.value v)).records.size :=
      Nat.le_trans hsize (Nat.le_of_eq Array.size_modify.symm)
    obtain ⟨⟨more, hmore⟩, hrest⟩ := ih (pos + 1) (hw.mono hfirst) (hplace.value _ w.key v hlt)
    rw [assignValues]
    exact ⟨⟨_, List.append_assoc .. ▸ hmore⟩, Nat.le_trans hfirst hrest⟩

/-- The elements that a field selects get new records one after the other, which are there for the work that
follows. -/
theorem made_assignElements (es : List ε) : ∀ (pos : Nat) {a : Arena} {log : List Assignment}, w.IsPlaced a →
    a.Made log → (∃ more, (assignElements w pos a es).1.Made (log ++ more)) ∧
      a.records.size ≤ (assignElements w pos a es).1.records.size ∧
        ∀ w' ∈ (assignElements w pos a es).2, w'.IsPlaced (assignElements w pos a es).1 := by
  induction es with
  | nil => exact fun _ _ _ _ h => ⟨⟨[], by rwa [List.append_nil]⟩, Nat.le_refl _, nofun⟩
  | cons e es ih =>
    intro pos a log hw h
    obtain ⟨hplace, hlt, hsize⟩ := made_placeFor pos hw h
    have hadded : ((a.placeFor w.place pos).1.add.1.assign (a.placeFor w.place pos).2 w.key
        (.record (a.placeFor w.place pos).1.records.size)).records.size =
          (a.placeFor w.place pos).1.records.size + 1 := Array.size_modify.trans (Array.size_push _)
    obtain ⟨⟨more, hmore⟩, hrest, hplaced⟩ :=
      ih (pos + 1) (hw.mono (hadded.symm ▸ Nat.le_succ_of_le hsize)) (hplace.nested _ w.key hlt)
    rw [Document.assignElements_cons]
    refine ⟨⟨_, List.append_assoc .. ▸ hmore⟩, ?_, fun w' hw' => ?_⟩
    · exact Nat.le_trans (hadded.symm ▸ Nat.le_succ_of_le hsize) hrest
    · rcases List.mem_append.1 hw' with hw' | hw'
      · obtain ⟨c, -, rfl⟩ := List.mem_map.1 hw'
        rintro p ⟨⟩
        exact Nat.lt_of_lt_of_le (hadded.symm ▸ Nat.lt_succ_self _) hrest
      · exact hplaced w' hw'

end

end
end BrowserPlan.Extraction
