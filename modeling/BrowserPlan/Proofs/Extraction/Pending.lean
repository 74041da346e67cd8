import BrowserPlan.Proofs.Extraction.Records

/-!
# What is still to come

Between two steps of the worklist, an arena and the values that are still due (`Due`) foretell what
every record will be and which records there will be in the end (`Foretells`). A step of the
worklist moves values from what is due into the arena. Followed backwards, no step changes what is
foretold (`Leads`); what an arena tells in the end is then what was foretold in the beginning.
-/
namespace BrowserPlan.Extraction

/-- Values under a key that the record at a place has still to get or, where there is no place, the
roots from a position on, one value each. -/
structure Due where
  place : Option Nat
  key : String
  position : Nat
  values : List Json

/-- A record: the one at a place, or the `i`-th root, which need not exist yet. -/
inductive Seat where
  | place (p : Nat)
  | root (i : Nat)

namespace Due

/-- The values that are due to one record. -/
def share (u : Due) : Seat → List Json
  | .place p => if u.place = some p then u.values else []
  | .root i => if u.place = none ∧ u.position ≤ i then u.values[i - u.position]?.toList else []

/-- How many roots it takes. -/
def reach (u : Due) : Nat :=
  if u.place = none ∧ u.values ≠ [] then u.position + u.values.length else 0

end Due

/-- How many roots it takes for all that is due. -/
def reach (dues : List Due) : Nat := (dues.map Due.reach).foldr max 0

/-- The draft with all that is due to it. -/
def Draft.fillAll (seat : Seat) (dues : List Due) (d : Draft) : Draft :=
  dues.foldl (fun d u => d.fill u.key (u.share seat)) d

namespace Arena

/-- The draft of a record, an empty one where there is none yet. -/
def draft (a : Arena) : Seat → Draft
  | .place p => (a.records[p]?).getD []
  | .root i => ((a.roots[i]?).bind (a.records[·]?)).getD []

/-- The value that a record will have. -/
def prospect (a : Arena) (dues : List Due) (final : Nat → Json) (seat : Seat) : Json :=
  .obj ((((a.draft seat).close final).fillAll seat dues).members final)

end Arena

/-- With `dues` still to come, the records of an arena will be `final`, and its roots `results`. -/
structure Foretells (a : Arena) (dues : List Due) (final : Nat → Json) (results : List Json) :
    Prop where
  place : ∀ p < a.records.size, (∀ i : Nat, a.roots[i]? ≠ some p) →
    final p = a.prospect dues final (.place p)
  root : ∀ i < results.length, results[i]? = some (a.prospect dues final (.root i))
  count : results.length = max a.roots.size (reach dues)

/-- An arena in order: records lie in front of those they hold, every root is a record of its own,
and what is due with a place is due to a record that is no root. -/
structure Sound (a : Arena) (dues : List Due) : Prop where
  forward : a.Forward
  root_lt : ∀ (i : Nat) r, a.roots[i]? = some r → r < a.records.size
  root_unique : ∀ (i j : Nat) r, a.roots[i]? = some r → a.roots[j]? = some r → i = j
  placed : ∀ u ∈ dues, ∀ p, u.place = some p → p < a.records.size ∧ ∀ i : Nat, a.roots[i]? ≠ some p

/-- Coming from one arena and what is due there to another, all stays in order, and what is foretold
there was foretold here. -/
def Leads (a : Arena) (dues : List Due) (b : Arena) (dues' : List Due) : Prop :=
  Sound a dues → Sound b dues' ∧
    ∀ final results, Foretells b dues' final results → Foretells a dues final results

section
variable {a b c : Arena} {dues dues' dues'' : List Due} {final : Nat → Json} {results : List Json}
  {seat : Seat} {d : Draft} {u : Due} {key : String} {v : Json} {vs : List Json} {pos p : Nat}
  {place : Option Nat}

theorem Leads.refl : Leads a dues a dues := fun h => ⟨h, fun _ _ hf => hf⟩

theorem Leads.trans (h : Leads a dues b dues') (h' : Leads b dues' c dues'') :
    Leads a dues c dues'' := by
  intro hs
  obtain ⟨hb, hab⟩ := h hs
  obtain ⟨hc, hbc⟩ := h' hb
  exact ⟨hc, fun final results hf => hab _ _ (hbc _ _ hf)⟩

/-! ## Shares -/

theorem Draft.fillAll_cons :
    d.fillAll seat (u :: dues) = (d.fill u.key (u.share seat)).fillAll seat dues := rfl

theorem Draft.fillAll_append :
    d.fillAll seat (dues ++ dues') = (d.fillAll seat dues).fillAll seat dues' :=
  List.foldl_append

theorem Draft.fillAll_of_share (h : ∀ u ∈ dues, u.share seat = []) : d.fillAll seat dues = d := by
  induction dues with
  | nil => rfl
  | cons u dues ih =>
    rw [fillAll_cons, h u (by simp)]
    exact ih fun u hu => h u (List.mem_cons_of_mem _ hu)

theorem reach_cons : reach (u :: dues) = max u.reach (reach dues) := rfl

theorem reach_append : reach (dues ++ dues') = max (reach dues) (reach dues') := by
  induction dues with
  | nil => simp [reach]
  | cons u dues ih => rw [List.cons_append, reach_cons, reach_cons, ih, Nat.max_assoc]

theorem share_eq_nil_of_place {q : Nat} (hu : u.place = some q) (h : seat ≠ .place q) :
    u.share seat = [] := by
  cases seat with
  | place p =>
    have hne : q ≠ p := fun hqp => h (by rw [hqp])
    simp [Due.share, hu, hne]
  | root i => simp [Due.share, hu]

theorem reach_of_placed (h : ∀ u ∈ dues, u.place ≠ none) : reach dues = 0 := by
  induction dues with
  | nil => rfl
  | cons u dues ih =>
    rw [reach_cons, ih fun u hu => h u (List.mem_cons_of_mem _ hu)]
    simp [Due.reach, h u (by simp)]

/-- A due without values is none. -/
theorem leads_done (hu : u.values = []) : Leads a (u :: dues) a dues := by
  intro hs
  refine ⟨⟨hs.forward, hs.root_lt, hs.root_unique, fun u hu => hs.placed u (by simp [hu])⟩, ?_⟩
  intro final results hf
  have hshare : ∀ seat, u.share seat = [] := by
    intro seat
    cases seat <;> simp [Due.share, hu]
  have hprospect : ∀ seat, a.prospect (u :: dues) final seat = a.prospect dues final seat := by
    intro seat
    rw [Arena.prospect, Draft.fillAll_cons, hshare]
    rfl
  refine ⟨fun p hp hr => ?_, fun i hi => ?_, ?_⟩
  · rw [hprospect]
    exact hf.place p hp hr
  · rw [hprospect]
    exact hf.root i hi
  · have hreach : u.reach = 0 := by simp [Due.reach, hu]
    rw [reach_cons, hreach, Nat.zero_max]
    exact hf.count

/-! ## Roots that are made -/

/-- The arena with one more root. -/
def Arena.addRoot (a : Arena) : Arena :=
  { records := a.records.push [], roots := a.roots.push a.records.size }

@[simp] theorem size_records_addRoot : a.addRoot.records.size = a.records.size + 1 :=
  Array.size_push _

@[simp] theorem size_roots_addRoot : a.addRoot.roots.size = a.roots.size + 1 := Array.size_push _

theorem addRoots_succ (a : Arena) (n : Nat) : a.addRoots (n + 1) = a.addRoot.addRoots n := rfl

theorem size_addRoots (a : Arena) (n : Nat) : (a.addRoots n).roots.size = a.roots.size + n := by
  induction n generalizing a with
  | zero => rfl
  | succ n ih =>
    rw [addRoots_succ, ih, size_roots_addRoot]
    omega

/-- An empty record at the end changes nothing for the records before. -/
theorem forward_push (h : a.Forward) (roots : Array Nat) :
    ({ records := a.records.push [], roots := roots } : Arena).Forward := by
  intro p d hd q hq
  simp only [Array.getElem?_push, Array.size_push] at hd ⊢
  by_cases hp : p = a.records.size
  · rw [if_pos hp] at hd
    obtain rfl := Option.some.inj hd
    simp [Draft.entries] at hq
  · rw [if_neg hp] at hd
    obtain ⟨h1, h2⟩ := h p d hd q hq
    exact ⟨h1, by omega⟩

theorem eq_or_of_roots_addRoot {i r : Nat} (h : a.addRoot.roots[i]? = some r) :
    (i = a.roots.size ∧ r = a.records.size) ∨ a.roots[i]? = some r := by
  rw [Arena.addRoot, Array.getElem?_push] at h
  by_cases hi : i = a.roots.size
  · rw [if_pos hi] at h
    exact .inl ⟨hi, (Option.some.inj h).symm⟩
  · rw [if_neg hi] at h
    exact .inr h

/-- A record that was there before is no new root. -/
theorem roots_addRoot_ne (hp : p < a.records.size) (h : ∀ i : Nat, a.roots[i]? ≠ some p) (i : Nat) :
    a.addRoot.roots[i]? ≠ some p := by
  intro hi
  rcases eq_or_of_roots_addRoot hi with ⟨-, rfl⟩ | hi
  · exact Nat.lt_irrefl _ hp
  · exact h i hi

theorem draft_addRoot_place (hp : p < a.records.size) :
    a.addRoot.draft (.place p) = a.draft (.place p) := by
  simp [Arena.draft, Arena.addRoot, Array.getElem?_push, Nat.ne_of_lt hp]

/-- A root has as little in it when it is made as when it is not. -/
theorem draft_addRoot_root (hs : Sound a dues) (i : Nat) :
    a.addRoot.draft (.root i) = a.draft (.root i) := by
  by_cases hi : i = a.roots.size
  · simp [Arena.draft, Arena.addRoot, hi]
  · cases hr : a.roots[i]? with
    | none => simp [Arena.draft, Arena.addRoot, Array.getElem?_push, hi, hr]
    | some r =>
      have hne := Nat.ne_of_lt (hs.root_lt i r hr)
      simp [Arena.draft, Arena.addRoot, Array.getElem?_push, hi, hr, hne]

theorem sound_addRoot (hs : Sound a dues) : Sound a.addRoot dues := by
  refine ⟨forward_push hs.forward _, fun i r hr => ?_, fun i j r hi hj => ?_, fun u hu p hp => ?_⟩
  · rw [size_records_addRoot]
    rcases eq_or_of_roots_addRoot hr with ⟨-, rfl⟩ | hr
    · exact Nat.lt_succ_self _
    · exact Nat.lt_succ_of_lt (hs.root_lt i r hr)
  · rcases eq_or_of_roots_addRoot hi with ⟨rfl, rfl⟩ | hi
    · rcases eq_or_of_roots_addRoot hj with ⟨rfl, -⟩ | hj
      · rfl
      · exact absurd (hs.root_lt j _ hj) (Nat.lt_irrefl _)
    · rcases eq_or_of_roots_addRoot hj with ⟨rfl, rfl⟩ | hj
      · exact absurd (hs.root_lt i _ hi) (Nat.lt_irrefl _)
      · exact hs.root_unique i j r hi hj
  · obtain ⟨hlt, hno⟩ := hs.placed u hu p hp
    refine ⟨?_, roots_addRoot_ne hlt hno⟩
    rw [size_records_addRoot]
    exact Nat.lt_succ_of_lt hlt

/-- A root that is made before its first value is foretold already. -/
theorem leads_addRoot (hroom : a.roots.size < reach dues) : Leads a dues a.addRoot dues := by
  intro hs
  refine ⟨sound_addRoot hs, fun final results hf => ⟨fun p hp hr => ?_, fun i hi => ?_, ?_⟩⟩
  · have hp' : p < a.addRoot.records.size := by
      rw [size_records_addRoot]
      exact Nat.lt_succ_of_lt hp
    rw [hf.place p hp' (roots_addRoot_ne hp hr), Arena.prospect, draft_addRoot_place hp]
    rfl
  · rw [hf.root i hi, Arena.prospect, draft_addRoot_root hs]
    rfl
  · rw [hf.count, size_roots_addRoot]
    omega

theorem leads_addRoots (n : Nat) : ∀ {a : Arena}, (n ≠ 0 → a.roots.size + n ≤ reach dues) →
    Leads a dues (a.addRoots n) dues := by
  induction n with
  | zero => exact fun _ => .refl
  | succ n ih =>
    intro a h
    rw [addRoots_succ]
    have hroom := h (Nat.succ_ne_zero n)
    refine (leads_addRoot (by omega)).trans (ih fun _ => ?_)
    rw [size_roots_addRoot]
    omega

end

end BrowserPlan.Extraction
