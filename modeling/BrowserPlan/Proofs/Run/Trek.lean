import BrowserPlan.Proofs.Plan.Iterations
import BrowserPlan.Proofs.Run.Agenda
import BrowserPlan.Proofs.Run.Parts
import Mathlib.Order.BooleanAlgebra.Set

/-!
# The way through a plan

A task that carries out steps of a plan begins each of them at most once, in the iteration that it stands
in. `Treads` are the rules for this: the state of a task is the set of all places that it, or the branches
that it starts, may still come to; a place is taken out when its step begins, and an iteration of a crawl
when its branch is started.
-/
namespace BrowserPlan.Run

open BrowserPlan.Task BrowserPlan.Browser
open BrowserPlan.Step (HasBody)

/-! ## Places -/

/-- The place of a step: its iteration, and its place in the list that is carried out there. -/
structure Place where
  iteration : Iteration
  number : Nat
  deriving DecidableEq

namespace Place

/-- The place is in the iteration `it` or in one within it. -/
def IsIn (it : Iteration) (s : Place) : Prop := it <+: s.iteration

/-- The place is number `i` of the iteration `it`, or in an iteration of the step there. -/
def IsAt (it : Iteration) (i : Nat) (s : Place) : Prop := s = ⟨it, i⟩ ∨ ∃ n, s.IsIn (it ++ [(i, n)])

variable {it : Iteration} {i j m n : Nat} {s : Place}

theorem isIn_self : IsIn it ⟨it, i⟩ := List.prefix_rfl

theorem IsIn.trans {jt : Iteration} (h : it <+: jt) (hs : s.IsIn jt) : s.IsIn it := h.trans hs

theorem IsAt.isIn (h : s.IsAt it i) : s.IsIn it := by
  rcases h with rfl | ⟨n, h⟩
  · exact isIn_self
  · exact h.trans (List.prefix_append ..)

/-- What follows the iteration in one that is within it. -/
theorem next_unique {p q : Nat × Nat} {jt : Iteration} (hp : it ++ [p] <+: jt) (hq : it ++ [q] <+: jt) :
    p = q := by
  obtain ⟨r, rfl⟩ := hp
  obtain ⟨r', h⟩ := hq
  rw [List.append_assoc, List.append_assoc, List.append_cancel_left_eq] at h
  exact (List.cons.inj h).1.symm

theorem not_prefix_self {p : Nat × Nat} : ¬ it ++ [p] <+: it := by
  intro h
  have hlen := h.length_le
  rw [List.length_append, List.length_singleton] at hlen
  omega

theorem IsAt.unique (hi : s.IsAt it i) (hj : s.IsAt it j) : i = j := by
  rcases hi with rfl | ⟨m, hm⟩ <;> rcases hj with h | ⟨n, hn⟩
  · exact (Place.mk.inj h).2
  · exact absurd hn not_prefix_self
  · rw [h] at hm
    exact absurd hm not_prefix_self
  · exact congrArg Prod.fst (next_unique hm hn)

end Place

/-! ## The rules -/

/-- A job that comes to no place of the plan. -/
def Job.IsAside : Job → Prop
  | .wait .. | .click .. | .close _ => True
  | _ => False

/-- A step by the way: it begins no step of the plan and starts nobody who does. -/
def Deed.IsAside : Deed scene → Prop
  | .ask (.openSpan ..) _ => False
  | .start job _ => Job.IsAside job
  | _ => True

theorem plain_aside (d : Deed scene) (h : Deed.IsPlain d) : Deed.IsAside d := by
  cases d with
  | ask q a => cases q <;> trivial
  | start job u => cases job <;> trivial
  | wake | stop | learn | meet => trivial

/-- The rules of the way through `steps`: what can still be come to, a step, and what can be come to then. -/
inductive Treads (steps : List Step) : Set Place → Deed scene → Set Place → Prop where
  | step {A it body i step} (n) (hbody : HasBody steps it body) (hs : body[i]? = some step)
    (hA : ⟨it, i⟩ ∈ A) : Treads steps A (.ask (.openSpan step.action it.index) n) (A \ {⟨it, i⟩})
  | branch {A it body i selector xpath attributeName sub n} (link u) (hbody : HasBody steps it body)
    (hs : body[i]? = some (.crawl selector xpath attributeName sub)) (hn : 1 ≤ n)
    (hA : ∀ s, s.IsIn (it ++ [(i, n)]) → s ∈ A) :
    Treads steps A (.start (.branch link (Iteration.index (it ++ [(i, n)])) sub) u)
      (A \ {s | s.IsIn (it ++ [(i, n)])})
  | aside {A d} (h : Deed.IsAside d) : Treads steps A d A

/-- From `A` on, the program keeps to the way and leaves out no place but those in `U`. -/
abbrev Goes {α : Type} (steps : List Step) (A U : Set Place) (p : Program scene α) : Prop :=
  p.Obeys (fun _ => True) (Treads steps) (fun A' _ => A \ U ⊆ A') A

namespace Goes

variable {steps : List Step} {A U V : Set Place} {α β : Type} {p : Program scene α}
  {f : α → Program scene β}

theorem mono (hU : A \ V ⊆ A \ U) (h : Goes steps A U p) : Goes steps A V p :=
  h.weaken fun _ _ hA => hU.trans hA

theorem of_takes (h : Takes Deed.IsAside p) : Goes steps A U p := by
  refine Program.Obeys.weaken ?_ (h.obeys (R := fun _ => True) fun _ hd => Treads.aside hd)
  rintro _ _ rfl
  exact Set.sdiff_subset

theorem bind (hp : Goes steps A U p) (hf : ∀ A' a, A \ U ⊆ A' → Goes steps A' V (f a)) :
    Goes steps A (U ∪ V) (p >>= f) := by
  refine Program.Obeys.bind (hp.weaken fun A' r hA => ?_)
  rw [← Set.sdiff_sdiff]
  cases r with
  | ok a => exact (hf A' a hA).weaken fun _ _ h => (Set.sdiff_subset_sdiff_left hA).trans h
  | error e => exact Set.sdiff_subset.trans hA

/-- A program that comes to no place before another one. -/
theorem after_aside (hp : Takes Deed.IsAside p) (hf : ∀ a, Goes steps A U (f a)) :
    Goes steps A U (p >>= f) := by
  refine Program.Obeys.bind (Program.Obeys.weaken ?_
    (hp.obeys (R := fun _ => True) fun _ hd => Treads.aside hd))
  rintro _ r rfl
  cases r with
  | ok a => exact hf a
  | error e => exact Set.sdiff_subset

/-- A program whose end is looked at by one that comes to no place. -/
theorem attempt {f : Outcome Fault α → Program scene β} (hp : Goes steps A U p)
    (hf : ∀ r, Takes Deed.IsAside (f r)) : Goes steps A U (p.attempt >>= f) := by
  refine Program.Obeys.bind (Program.Obeys.attempt (hp.weaken fun A' r hA => ?_))
  refine Program.Obeys.weaken ?_ ((hf r).obeys (R := fun _ => True) fun _ hd => Treads.aside hd)
  rintro _ _ rfl
  exact hA

theorem ensuring {after : Outcome Fault α → Program scene Unit} (hp : Goes steps A U p)
    (hafter : ∀ r, Takes Deed.IsAside (after r)) :
    Goes steps A U (Program.ensuring (I := scene) p after) :=
  hp.attempt fun r => Takes.bind (hafter r) fun _ => .ending r

theorem before_aside (hp : Goes steps A U p) (hf : ∀ a, Takes Deed.IsAside (f a)) :
    Goes steps A U (p >>= f) :=
  mono (by rw [Set.union_empty]) (hp.bind (V := ∅) fun _ a _ => of_takes (hf a))

/-- Rounds, one after the other. -/
theorem count {it : Iteration} {i : Nat} {f : Nat → Program scene Unit} : ∀ (times first : Nat) {A : Set Place},
    (∀ n A, first ≤ n → n < first + times → (∀ s, s.IsIn (it ++ [(i, n)]) → s ∈ A) →
      Goes steps A {s | s.IsIn (it ++ [(i, n)])} (f n)) →
    (∀ n s, first ≤ n → s.IsIn (it ++ [(i, n)]) → s ∈ A) →
      Goes steps A {s | ∃ n, first ≤ n ∧ s.IsIn (it ++ [(i, n)])} (Program.count f first times)
  | 0, _, _, _, _ => Set.sdiff_subset
  | times + 1, first, A, hf, hA => by
    have hlater := fun A' (hA' : A \ {s | s.IsIn (it ++ [(i, first)])} ⊆ A') =>
      count times (first + 1) (A := A')
        (fun n A hn hlt => hf n A (Nat.le_of_succ_le hn) (by omega))
        fun n s hn hs => hA' ⟨hA n s (Nat.le_of_succ_le hn) hs, fun hfirst => by
          have := congrArg Prod.snd (Place.next_unique hs hfirst)
          exact absurd this (Nat.ne_of_gt hn)⟩
    refine mono (Set.sdiff_subset_sdiff_right ?_) <|
      bind (hf first A (Nat.le_refl _) (by omega) (hA first · (Nat.le_refl _))) fun A' _ hA' =>
        hlater A' hA'
    rintro s (hs | ⟨n, hn, hs⟩)
    · exact ⟨first, Nat.le_refl _, hs⟩
    · exact ⟨n, Nat.le_of_succ_le hn, hs⟩

end Goes

/-! ## Crawls -/

/-- Branches whose numbers increase, from `k` on. -/
inductive Numbered (index : IterationIndex) : Nat → List (String × IterationIndex) → Prop where
  | nil {k} : Numbered index k []
  | cons {k n bs} (link) (hn : k ≤ n) (h : Numbered index (n + 1) bs) :
    Numbered index k ((link, index.child n) :: bs)

theorem Numbered.of_succ {index : IterationIndex} {k : Nat} {bs : List (String × IterationIndex)}
    (h : Numbered index (k + 1) bs) : Numbered index k bs := by
  cases h with
  | nil => exact .nil
  | cons link hn h => exact .cons link (Nat.le_of_succ_le hn) h

/-- The branches of a crawl are numbered by the positions of their links. -/
theorem branchesOf_numbered (base : String) (index : IterationIndex) (vs : List Json) :
    ∀ k : Nat, Program.Avoids (I := scene) (fun _ => False) Deed.IsAside (Numbered index k)
      (branchesOf base index k vs) := by
  induction vs with
  | nil => exact fun k => .pure .nil
  | cons v vs ih =>
    intro k
    have hnext := ih (k + 1)
    rw [Int.natCast_succ] at hnext
    rw [branchesOf]
    split
    · exact hnext.mono fun _ => Numbered.of_succ
    · refine Program.Avoids.bind (Takes.settleFor _ _) fun link _ => ?_
      split
      · exact hnext.bind fun bs hbs => .pure (.cons _ (Nat.le_refl k) hbs)
      · exact Program.Avoids.bind (takes_say plain_aside _ _ _) fun _ _ =>
          hnext.mono fun _ => Numbered.of_succ

section
variable {steps : List Step} {A : Set Place} {it : Iteration} {body : List Step} {i : Nat}

/-- Branches are started, each in an iteration of its own. -/
theorem goes_starts (hbody : HasBody steps it body) {selector xpath : Option String} {attributeName : String}
    {sub : List Step} (hs : body[i]? = some (.crawl selector xpath attributeName sub))
    {k : Nat} (hk : 1 ≤ k) {bs : List (String × IterationIndex)} (h : Numbered it.index k bs)
    (hA : ∀ n s, k ≤ n → s.IsIn (it ++ [(i, n)]) → s ∈ A) :
    Goes steps A {s | ∃ n, k ≤ n ∧ s.IsIn (it ++ [(i, n)])}
      (bs.mapM fun b => Program.start (I := scene) (.branch b.1 b.2 sub)) := by
  induction h generalizing A with
  | nil => exact Set.sdiff_subset
  | @cons k n bs link hn h ih =>
    rw [List.mapM_cons]
    intro u _
    have hkn := Nat.le_trans hk hn
    have hstart := Treads.branch link u hbody hs hkn (hA n · hn)
    rw [Iteration.index_snoc] at hstart
    refine ⟨_, hstart, ?_⟩
    have hrest := ih (A := A \ {s | s.IsIn (it ++ [(i, n)])}) (Nat.le_succ_of_le hkn) fun m s hm hs => by
      refine ⟨hA m s (Nat.le_trans hn (Nat.le_of_succ_le hm)) hs, fun h => ?_⟩
      exact absurd (congrArg Prod.snd (Place.next_unique hs h)) (Nat.ne_of_gt hm)
    refine Program.Obeys.weaken ?_ (hrest.bind (V := ∅) fun A' us _ =>
      Goes.of_takes (p := pure (u :: us)) (.pure _))
    refine fun A' _ hA' s hs => hA' ⟨⟨hs.1, fun h => hs.2 ⟨n, hn, h⟩⟩, ?_⟩
    rintro (⟨m, hm, h⟩ | h)
    · exact hs.2 ⟨m, Nat.le_trans hn (Nat.le_of_succ_le hm), h⟩
    · exact h

/-- A crawl starts its branches in the iterations of its step. -/
theorem goes_crawl (hbody : HasBody steps it body) {selector xpath : Option String} {attributeName : String}
    {sub : List Step} (hs : body[i]? = some (.crawl selector xpath attributeName sub)) (page : PageId)
    (hA : ∀ n s, 1 ≤ n → s.IsIn (it ++ [(i, n)]) → s ∈ A) :
    Goes steps A {s | ∃ n, 1 ≤ n ∧ s.IsIn (it ++ [(i, n)])}
      (crawl page it.index selector xpath attributeName sub) := by
  rw [crawl]
  refine .after_aside (takes_findLinks plain_aside page it.index _ _ _) fun found => ?_
  refine .after_aside (.ask fun _ => trivial) fun base => ?_
  refine Program.Obeys.bind (Program.Obeys.weaken ?_ (avoids_obeys (R := fun _ => True)
    (branchesOf_numbered base it.index found 1) fun _ hd => Treads.aside hd))
  rintro _ r ⟨rfl, hr⟩
  cases r with
  | error e => exact Set.sdiff_subset
  | ok bs =>
    refine Goes.after_aside (takes_say plain_aside _ _ _) fun _ => ?_
    refine Goes.mono (Set.sdiff_subset_sdiff_right ?_) (Goes.bind (V := ∅)
      (goes_starts hbody hs (Nat.le_refl 1) (hr bs rfl) hA) fun A' ts _ => Goes.of_takes ?_)
    · rintro s (h | h)
      · exact h
      · exact h.elim
    · exact Program.Avoids.joinAll (fun _ => trivial) fun _ => trivial

/-! ## Steps -/

/-- A step begins, and what it does is within it. -/
theorem goes_begin (hbody : HasBody steps it body) {step : Step} (hs : body[i]? = some step) (page : PageId)
    (hA : ∀ s, s.IsAt it i → s ∈ A)
    (hp : ∀ A', (∀ n s, s.IsIn (it ++ [(i, n)]) → s ∈ A') →
      Goes steps A' {s | ∃ n, s.IsIn (it ++ [(i, n)])} (stepBody page it.index step)) :
    Goes steps A {s | s.IsAt it i} (runStep page it.index step) := by
  rw [runStep_eq]
  refine .after_aside (.ask fun _ => trivial) fun _ => ?_
  refine .after_aside (takes_say plain_aside _ _ _) fun _ => ?_
  rw [spanned]
  intro n _
  refine ⟨_, .step n hbody hs (hA _ (.inl rfl)), ?_⟩
  have hbegun := hp (A \ {⟨it, i⟩}) fun n s h => by
    refine ⟨hA s (.inr ⟨n, h⟩), ?_⟩
    rintro rfl
    exact Place.not_prefix_self h
  have hclose : ∀ r : Outcome Fault Unit, Takes Deed.IsAside (ask (.closeSpan n (SpanStatus.ofOutcome r))) :=
    fun _ => .ask fun _ => trivial
  refine Program.Obeys.weaken ?_ (hbegun.ensuring hclose)
  refine fun A' _ hA' s hs => hA' ⟨⟨hs.1, fun h => hs.2 (.inl h)⟩, fun h => hs.2 (.inr h)⟩

mutual

/-- The steps from number `i` of an iteration on begin at most once each. -/
theorem goes_runSteps (page : PageId) {it : Iteration} {body : List Step} {i : Nat}
    {A : Set Place} (hbody : HasBody steps it body) (list : List Step) (hlist : body.drop i = list)
    (hA : ∀ j s, i ≤ j → s.IsAt it j → s ∈ A) :
    Goes steps A {s | ∃ j, i ≤ j ∧ s.IsAt it j} (runSteps page it.index list) := by
  match list with
  | [] =>
    rw [runSteps]
    exact .of_takes (.pure ())
  | step :: rest =>
    rw [runSteps]
    have hs : body[i]? = some step := by rw [← List.head?_drop, hlist]; rfl
    have hrest : body.drop (i + 1) = rest := by rw [← List.tail_drop, hlist]; rfl
    refine Goes.mono (Set.sdiff_subset_sdiff_right ?_) (Goes.bind (V := {s | ∃ j, i + 1 ≤ j ∧ s.IsAt it j})
      (goes_runStep page hbody hs (hA i · (Nat.le_refl i))) fun A' _ hA' =>
        goes_runSteps page hbody rest hrest fun j s hj h => hA' ⟨hA j s (Nat.le_of_succ_le hj) h, fun hi => ?_⟩)
    · rintro s (h | ⟨j, hj, h⟩)
      · exact ⟨i, Nat.le_refl i, h⟩
      · exact ⟨j, Nat.le_of_succ_le hj, h⟩
    · exact absurd (h.unique hi) (Nat.ne_of_gt hj)
termination_by sizeOf list

/-- A step begins at most once in an iteration, and so does each step of its iterations. -/
theorem goes_runStep (page : PageId) {it : Iteration} {body : List Step} {i : Nat}
    {A : Set Place} (hbody : HasBody steps it body) {step : Step} (hs : body[i]? = some step)
    (hA : ∀ s, s.IsAt it i → s ∈ A) :
    Goes steps A {s | s.IsAt it i} (runStep page it.index step) := by
  refine goes_begin hbody hs page hA fun A' hA' => ?_
  match step with
  | .click .. | .type .. | .go .. | .wait .. | .scrape .. | .screenshot .. =>
    exact .of_takes (takes_stepBody plain_aside page it.index rfl)
  | .repeat sub times =>
    refine Goes.mono (Set.sdiff_subset_sdiff_right fun s h => ?_) (Goes.count times 1
      (fun n A hn hlt hA => ?_) fun n s _ h => hA' n s h)
    · exact ⟨h.choose, h.choose_spec.2⟩
    · rw [← Iteration.index_snoc it i n]
      refine Goes.mono (Set.sdiff_subset_sdiff_right fun s h => ?_) (goes_runSteps page
        (.round hbody hs hn (by omega)) sub (i := 0) rfl fun j s _ h => hA s h.isIn)
      obtain ⟨j, -, h⟩ := h
      exact h.isIn
  | .crawl selector xpath attributeName sub =>
    refine Goes.mono (Set.sdiff_subset_sdiff_right fun s h => ?_) (goes_crawl hbody hs page fun n s _ h => hA' n s h)
    exact ⟨h.choose, h.choose_spec.2⟩
termination_by sizeOf step

end

end

/-! ## Whole programs -/

theorem aside_lone (d : Deed scene) (h : Deed.IsLone d) : Deed.IsAside d := by
  cases d with
  | ask q a => cases q <;> trivial
  | start => exact h.elim
  | wake | stop | learn | meet => trivial

theorem aside_wrapUp (plan : Plan) : Takes Deed.IsAside (wrapUp plan) :=
  takes_wrapUp_of (takes_close aside_lone) (fun _ => trivial) (fun _ _ => trivial) (fun _ _ => trivial) plan

theorem aside_windUp (plan : Plan) (r : Outcome Fault Unit) : Takes Deed.IsAside (windUp plan r) := by
  refine Takes.bind (takes_closePages aside_lone) fun _ => ?_
  cases r with
  | error e => exact takes_giveUp aside_lone e
  | ok u => exact aside_wrapUp plan

theorem aside_waitClosed : Takes Deed.IsAside Session.waitClosed := by
  have hlaunched : Takes Deed.IsAside Session.launched := by
    refine Takes.bind (p := Session.current) (.ask fun _ => trivial) fun s => ?_
    split
    · exact .pure _
    · exact .fail _
  refine Takes.bind hlaunched fun b => Takes.bind (.ask fun _ => trivial) fun connected => ?_
  split
  · exact Takes.bind (lone_invoke aside_lone _ _) fun _ => Program.Avoids.wait (fun _ => trivial) fun _ => trivial
  · exact .pure ()

theorem aside_closeLater (d : Deferral) : Takes Deed.IsAside (closeLater d) := by
  have helapse : Takes Deed.IsAside d.elapse := by
    have hwait : ∀ on, Takes Deed.IsAside (wait on) := fun on => Program.Avoids.wait (fun _ => trivial) fun _ => trivial
    rw [Deferral.elapse.eq_def]
    split
    · exact aside_waitClosed
    · split
      · split
        · exact .fail _
        · exact hwait _
      · split <;> exact hwait _
  exact Takes.bind (Program.Avoids.ensuring helapse fun _ => takes_close aside_lone) fun _ => .pure _

theorem aside_program {job : Job} (h : Job.IsAside job) : Takes Deed.IsAside (program job) := by
  cases job with
  | wait page c => exact Takes.bind (takes_waitFor plain_aside page c) fun _ => .pure _
  | click page target => exact Takes.bind (lone_invoke aside_lone (.page page) (.click target)) fun _ => .pure _
  | close d => exact aside_closeLater d
  | _ => cases h

section
variable {steps : List Step} {A : Set Place}

theorem goes_iteration (page : PageId) {it : Iteration} {body : List Step} (hbody : HasBody steps it body)
    (hA : ∀ s, s.IsIn it → s ∈ A) : Goes steps A {s | s.IsIn it} (runSteps page it.index body) := by
  refine Goes.mono (Set.sdiff_subset_sdiff_right ?_)
    (goes_runSteps page hbody body (i := 0) rfl fun j s _ h => hA s h.isIn)
  rintro s ⟨j, -, h⟩
  exact h.isIn

/-- A branch keeps to its iteration of the crawl. -/
theorem goes_branch (link : String) {it : Iteration} {body : List Step} (hbody : HasBody steps it body)
    (hA : ∀ s, s.IsIn it → s ∈ A) : Goes steps A {s | s.IsIn it} (program (.branch link it.index body)) := by
  have hfollow : Goes steps A {s | s.IsIn it} (followLink link it.index body) := by
    have hborrow : ∀ d, IsBorrowing d → Deed.IsAside d := fun d h => plain_aside d h.isPlain
    refine .after_aside (takes_acquire hborrow) fun page => ?_
    refine Goes.ensuring ?_ fun _ => takes_release hborrow page
    exact .after_aside (lone_invoke aside_lone _ _) fun _ => goes_iteration page hbody hA
  have hnote : ∀ fault, Takes Deed.IsAside (noteFailure link it.index fault) := fun fault =>
    Takes.bind (takes_say plain_aside _ _ _) fun _ => Takes.bind (takes_say plain_aside _ _ _) fun _ => .ask fun _ => trivial
  refine Goes.before_aside (hfollow.attempt fun r => ?_) fun _ => .pure _
  match r with
  | .error (.failed fault) => exact hnote fault
  | .ok _ | .error .cancelled | .error .interrupted => exact .ending _

/-- A run goes the way through the steps of its plan. -/
theorem goes_automation (plan : Plan) (engine : String) :
    Goes plan.steps Set.univ Set.univ (program (.automation plan engine)) := by
  rw [program_automation]
  refine .after_aside (.settleFor _ _) fun s => .after_aside (.ask fun _ => trivial) fun _ => ?_
  refine .after_aside (takes_openUp aside_lone plan).attempted fun r => ?_
  match r with
  | .error e => exact .of_takes (takes_giveUp aside_lone e)
  | .ok page =>
    refine Goes.attempt ?_ (aside_windUp plan)
    refine .after_aside (takes_say plain_aside _ _ _) fun _ => .after_aside (lone_invoke aside_lone _ _) fun _ => ?_
    exact Goes.mono (Set.sdiff_subset_sdiff_right (Set.subset_univ _))
      (goes_iteration page .root fun _ _ => Set.mem_univ _)

end

end BrowserPlan.Run
