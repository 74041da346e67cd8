import BrowserPlan.IterationIndex
import BrowserPlan.Plan.Basic
import Mathlib.Data.List.Induction

/-!
# The iterations of a plan

An iteration is given by the steps it is in, from the outermost one inwards: the place of each in its
list, and the number of the round or of the link. The index of an iteration keeps the numbers and
forgets the places. So the written form of an index tells the numbers (`toString_eq_iff`), and nothing
else: two iterations of different steps in one list are written alike if their numbers agree
(`toString_index_eq_iff`), and only a plan without two such steps in one list has an index for each of its
iterations (`IsSingleFile.iteration_eq`).
-/
namespace BrowserPlan

/-! ## The written form -/

namespace IterationIndex

/-- All positions count from one. -/
def IsProper (i : IterationIndex) : Prop := ∀ p ∈ i.positions, 1 ≤ p

theorem repr_of_pos {p : Int} (hp : 1 ≤ p) : p.repr.toList = Nat.toDigits 10 p.toNat := by
  cases p with
  | ofNat n => exact Nat.toList_repr
  | negSucc n => omega

theorem dash_notMem_repr {p : Int} (hp : 1 ≤ p) : '-' ∉ p.repr.toList := by
  rw [repr_of_pos hp]
  intro h
  have := Nat.isDigit_of_mem_toDigits (by decide) (by decide) h
  simp at this

theorem toDigits_inj {m n : Nat} : Nat.toDigits 10 m = Nat.toDigits 10 n ↔ m = n := by
  refine ⟨fun h => ?_, fun h => h ▸ rfl⟩
  rw [← Nat.ofDigitChars_ten_toDigits (n := m), h, Nat.ofDigitChars_ten_toDigits]

theorem ne_zero_of_proper {i : IterationIndex} (hi : i.IsProper) :
    (i.positions.map fun p => p.repr.toList) ≠ [['0']] := by
  intro h
  obtain ⟨p, hp, hzero⟩ := List.map_eq_singleton_iff.1 h
  have hpos := hi p (by simp [hp])
  rw [repr_of_pos hpos, ← Nat.toDigits_zero 10, toDigits_inj] at hzero
  omega

theorem eq_of_digits : ∀ {ps qs : List Int}, (∀ p ∈ ps, 1 ≤ p) → (∀ q ∈ qs, 1 ≤ q) →
    (ps.map fun p => p.repr.toList) = qs.map (fun q => q.repr.toList) → ps = qs
  | [], [], _, _, _ => rfl
  | [], _ :: _, _, _, h | _ :: _, [], _, _, h => by simp at h
  | p :: ps, q :: qs, hp, hq, h => by
    rw [List.map_cons, List.map_cons, List.cons.injEq] at h
    have hp0 := hp p List.mem_cons_self
    have hq0 := hq q List.mem_cons_self
    have hhead := h.1
    rw [repr_of_pos hp0, repr_of_pos hq0, toDigits_inj] at hhead
    have htail := eq_of_digits (fun r hr => hp r (List.mem_cons_of_mem _ hr))
      (fun r hr => hq r (List.mem_cons_of_mem _ hr)) h.2
    rw [htail, show p = q by omega]

/-- The written form, taken apart at the dashes. -/
theorem splitOn_toString {i : IterationIndex} (hi : i.IsProper) :
    i.toString.toList.splitOn '-' =
      if i.positions = [] then [['0']] else i.positions.map fun p => p.repr.toList := by
  obtain ⟨ps⟩ := i
  cases ps with
  | nil => rfl
  | cons p ps =>
    have hdash : ∀ l ∈ (p :: ps).map (fun p => p.repr.toList), '-' ∉ l := by
      intro l hl
      obtain ⟨q, hq, rfl⟩ := List.mem_map.1 hl
      exact dash_notMem_repr (hi q hq)
    have hwritten : (toString ⟨p :: ps⟩).toList =
        ['-'].intercalate ((p :: ps).map fun p => p.repr.toList) := by
      change (String.intercalate "-" ((p :: ps).map Int.repr)).toList = _
      rw [String.toList_intercalate, List.map_map]
      rfl
    rw [hwritten, List.splitOn_intercalate '-' hdash (by simp)]
    rfl

/-- The written form of an index tells its positions. -/
theorem toString_eq_iff {i j : IterationIndex} (hi : i.IsProper) (hj : j.IsProper) :
    i.toString = j.toString ↔ i = j := by
  refine ⟨fun h => ?_, fun h => h ▸ rfl⟩
  have hsplit := splitOn_toString hi
  rw [h, splitOn_toString hj] at hsplit
  obtain ⟨ps⟩ := i
  obtain ⟨qs⟩ := j
  congr 1
  by_cases hp : ps = [] <;> by_cases hq : qs = [] <;> simp only [hp, hq, if_true, if_false] at hsplit
  · rw [hp, hq]
  · exact absurd hsplit (ne_zero_of_proper hj)
  · exact absurd hsplit.symm (ne_zero_of_proper hi)
  · exact eq_of_digits hi hj hsplit.symm

end IterationIndex

/-! ## Iterations -/

/-- An iteration: for each repetition and each crawl that it is in, from the outermost one inwards, the
place of that step in its list, and the number of the round or of the link. -/
abbrev Iteration := List (Nat × Nat)

namespace Iteration

/-- The numbers of an iteration. -/
def numbers (it : Iteration) : List Nat := it.map (·.2)

/-- The index of an iteration. -/
def index (it : Iteration) : IterationIndex := ⟨it.map fun p => (p.2 : Int)⟩

theorem index_snoc (it : Iteration) (i n : Nat) : index (it ++ [(i, n)]) = (index it).child n := by
  simp [index, IterationIndex.child]

theorem index_eq_iff {it jt : Iteration} : it.index = jt.index ↔ it.numbers = jt.numbers := by
  have hcast : ∀ it : Iteration, it.map (fun p => (p.2 : Int)) = it.numbers.map Int.ofNat := fun it => by
    simp [numbers]
  rw [index, index, IterationIndex.mk.injEq, hcast, hcast]
  exact List.map_inj_right fun m n h => Int.ofNat.inj h

end Iteration

namespace Step

/-- `HasBody steps it body`: when `steps` are carried out, the iteration `it` of them carries out
`body`. Of a crawl it depends on the links that are found how many iterations there are. -/
inductive HasBody (steps : List Step) : Iteration → List Step → Prop where
  | root : HasBody steps [] steps
  | round {it body i sub times n} (h : HasBody steps it body)
    (hs : body[i]? = some (.repeat sub times)) (hn : 1 ≤ n) (hle : n ≤ times) :
    HasBody steps (it ++ [(i, n)]) sub
  | link {it body i selector xpath attributeName sub n} (h : HasBody steps it body)
    (hs : body[i]? = some (.crawl selector xpath attributeName sub)) (hn : 1 ≤ n) :
    HasBody steps (it ++ [(i, n)]) sub

/-- The steps that each iteration of a step carries out, none for a step that has no iterations. -/
def body? : Step → Option (List Step)
  | .repeat steps _ | .crawl _ _ _ steps => some steps
  | _ => none

namespace HasBody

variable {steps body body' : List Step} {it jt : Iteration} {i n : Nat}

theorem of_nil (h : HasBody steps [] body) : body = steps := by
  generalize hit : ([] : Iteration) = it at h
  cases h with
  | root => rfl
  | round | link => simp at hit

theorem of_snoc (h : HasBody steps (it ++ [(i, n)]) body) :
    ∃ outer step, HasBody steps it outer ∧ outer[i]? = some step ∧ step.body? = some body ∧ 1 ≤ n := by
  generalize hjt : it ++ [(i, n)] = jt at h
  cases h with
  | root => simp at hjt
  | round h hs hn | link h hs hn =>
    obtain ⟨rfl, heq⟩ := List.append_inj' hjt rfl
    cases heq
    exact ⟨_, _, h, hs, rfl, hn⟩

theorem unique (h : HasBody steps it body) (h' : HasBody steps it body') : body = body' := by
  induction it using List.reverseRecOn generalizing body body' with
  | nil => rw [h.of_nil, h'.of_nil]
  | append_singleton it p ih =>
    obtain ⟨outer, step, hi, hs, hb, -⟩ := h.of_snoc
    obtain ⟨outer', step', hi', hs', hb', -⟩ := h'.of_snoc
    obtain rfl := ih hi hi'
    rw [hs] at hs'
    cases hs'
    exact Option.some.inj (hb.symm.trans hb')

theorem proper (h : HasBody steps it body) : it.index.IsProper := by
  have hnumbers : ∀ p ∈ it, 1 ≤ p.2 := by
    induction h with
    | root => nofun
    | round _ _ hn _ ih | link _ _ hn ih =>
      intro p hp
      rcases List.mem_append.1 hp with hp | hp
      · exact ih p hp
      · rw [List.mem_singleton.1 hp]
        exact hn
  intro p hp
  obtain ⟨q, hq, rfl⟩ := List.mem_map.1 hp
  have := hnumbers q hq
  omega

/-- Two iterations have indices that are written alike if and only if their numbers agree. -/
theorem toString_index_eq_iff (h : HasBody steps it body) (h' : HasBody steps jt body') :
    it.index.toString = jt.index.toString ↔ it.numbers = jt.numbers :=
  (IterationIndex.toString_eq_iff h.proper h'.proper).trans Iteration.index_eq_iff

end HasBody

/-- In no list of steps that is carried out do two steps have iterations. -/
def IsSingleFile (steps : List Step) : Prop :=
  ∀ it body, HasBody steps it body → ∀ (i j : Nat) (s t : Step), body[i]? = some s →
    body[j]? = some t → s.body?.isSome = true → t.body?.isSome = true → i = j

/-- Where no two steps of a list have iterations, the numbers of an iteration tell it. -/
theorem IsSingleFile.iteration_eq {steps body body' : List Step} (hsteps : IsSingleFile steps) :
    ∀ {it jt : Iteration}, HasBody steps it body → HasBody steps jt body' →
      it.numbers = jt.numbers → it = jt := by
  intro it
  induction it using List.reverseRecOn generalizing body body' with
  | nil =>
    intro jt _ _ h
    exact (List.map_eq_nil_iff.1 h.symm).symm
  | append_singleton it p ih =>
    intro jt h h' hnumbers
    rcases List.eq_nil_or_concat jt with rfl | ⟨jt, q, rfl⟩
    · simp [Iteration.numbers] at hnumbers
    · rw [List.concat_eq_append] at h' hnumbers ⊢
      obtain ⟨outer, s, hi, hs, hb, -⟩ := h.of_snoc
      obtain ⟨outer', t, hi', ht, hb', -⟩ := h'.of_snoc
      simp only [Iteration.numbers, List.map_append, List.map_cons, List.map_nil] at hnumbers
      obtain ⟨hbefore, hlast⟩ := List.append_inj' hnumbers rfl
      obtain rfl := ih hi hi' hbefore
      obtain rfl := hi.unique hi'
      have hplace := hsteps _ _ hi _ _ _ _ hs ht (by rw [hb]; rfl) (by rw [hb']; rfl)
      rw [Prod.ext hplace (List.cons.inj hlast).1]

end Step

end BrowserPlan
