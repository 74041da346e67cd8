import BrowserPlan.Proofs.Task.Crew
import Mathlib.Logic.Hydra

/-!
# Tasks come to an end

A program is a tree without infinite branches, so a task takes finitely many steps. A crew can go on
for ever only by starting more and more tasks, and it cannot do so if the job of a task is always below
that of the task that starts it: then every step replaces what is left of one task by finitely many
things that are less (`Step.cutExpand`), and such replacements come to an end (`moves_end`). A task that
cannot go on waits for something that has not come (`exists_move`).
-/
namespace BrowserPlan.Task

variable {I : Interface} {W α : Type}

/-- A program comes to an end after finitely many steps, whatever it meets. -/
theorem Program.wellFounded_does :
    WellFounded fun q p : Program I α => ∃ d, p.Does d q := by
  refine ⟨fun p => ?_⟩
  induction p with
  | done r =>
    refine ⟨_, ?_⟩
    rintro q ⟨d, hd⟩
    cases hd
  | cancel t next ih =>
    refine ⟨_, ?_⟩
    rintro q ⟨d, hd⟩
    cases hd
    exact ih
  | _ =>
    rename_i ih
    refine ⟨_, ?_⟩
    rintro q ⟨d, hd⟩
    cases hd
    exact ih _

/-- A member takes a step or ends. -/
def Event.IsMove : Event I → Prop
  | .act .. | .finish .. | .balk _ => True
  | .tell _ | .pass .. | .happen _ => False

namespace Crew

variable {m : Machine I W} {outside : I.Call → Prop} {c : Crew I W} {t : TaskId} {x : Member I}

/-- The program waits for a signal that was not given, or for a task that goes on. -/
def IsBlocked (c : Crew I W) (p : Program I I.Result) : Prop :=
  (∃ s next, p = .pause (.signal s) next ∧ ∀ r, (s, r) ∉ c.given) ∨
    ∃ u, p.WaitsFor u ∧ c.result? u = none

/-- Some member can take a step or end. -/
def CanMove (m : Machine I W) (outside : I.Call → Prop) (c : Crew I W) : Prop :=
  ∃ e d, Step m outside c e d ∧ e.IsMove

/-- A member that goes on can move, unless it pauses for ever or is blocked. -/
theorem exists_move (hx : c.members[t]? = some x) (hr : x.result = none) :
    c.CanMove m outside ∨ (∃ next, x.rest = .pause .forever next) ∨ c.IsBlocked x.rest := by
  rw [IsBlocked, CanMove]
  have hact : ∀ {rest deed p c'}, x.rest = rest → rest.Does deed p → Allows m c x.isTold deed c' →
      ∃ e d, Step m outside c e d ∧ e.IsMove :=
    fun hrest hd ha => ⟨_, _, .act hx hr (hrest ▸ hd) ha, trivial⟩
  cases hrest : x.rest with
  | done r => exact .inl ⟨_, _, .finish hx hr hrest, trivial⟩
  | call q next => exact .inl (hact hrest (.ask q next _) (.ask 0 rfl))
  | fork job next => exact .inl (hact hrest (.start job next _) (.start job rfl))
  | cancel u next => exact .inl (hact hrest (.stop u next) (.stop u))
  | pause on next =>
    cases on with
    | timer micros => exact .inl (hact hrest (.wake _ next _) (.wait (.timer micros)))
    | forever => exact .inr (.inl ⟨next, rfl⟩)
    | signal s =>
      by_cases hgiven : ∃ r, (s, r) ∈ c.given
      · obtain ⟨r, hin⟩ := hgiven
        exact .inl (hact hrest (.wake _ next r) (.wait (.signal hin)))
      · exact .inr (.inr (.inl ⟨s, next, rfl, fun r hin => hgiven ⟨r, hin⟩⟩))
  | await u next =>
    cases hu : c.result? u with
    | none => exact .inr (.inr (.inr ⟨u, .await next, hu⟩))
    | some r => exact .inl (hact hrest (.learn u next r) (.wait (.learn hu)))
  | gather ts patient next =>
    by_cases hall : ∀ u ∈ ts, (c.result? u).isSome = true
    · left
      cases patient with
      | true => exact hact hrest (.meet ts true next _) (.wait (.all hall))
      | false =>
        -- all have ended, and if one of them has ended badly, that is what is met
        by_cases hbad : ∃ u ∈ ts, ∃ s, c.result? u = some (.error s)
        · obtain ⟨u, hu, s, hs⟩ := hbad
          exact hact hrest (.meet ts false next _) (.wait (.bad hu hs))
        · refine hact hrest (.meet ts false next _) (.wait (.good fun u hu => ?_))
          obtain ⟨r, hr⟩ := Option.isSome_iff_exists.1 (hall u hu)
          cases r with
          | ok a => exact ⟨a, hr⟩
          | error s => exact absurd ⟨u, hu, s, hr⟩ hbad
    · push Not at hall
      obtain ⟨u, hu, hnone⟩ := hall
      exact .inr (.inr (.inr ⟨u, .gather patient next hu, by simpa using hnone⟩))

end Crew

/-- What a member still has before it: its job, whether it goes on, and what is left of its program. -/
abbrev Burden (I : Interface) := Nat × Nat × Program I I.Result

/-- Less is before a member when its job is lower, or when it has ended, or when it has gone on. -/
def Lighter : Burden I → Burden I → Prop :=
  Prod.Lex (· < ·) (Prod.Lex (· < ·) fun q p => ∃ d, p.Does d q)

theorem wellFounded_lighter : WellFounded (Lighter (I := I)) :=
  WellFounded.prod_lex Nat.lt_wfRel.wf (WellFounded.prod_lex Nat.lt_wfRel.wf Program.wellFounded_does)

section
variable (level : I.Job → Nat)

/-- What a member has before it, by the level of its job. -/
def Member.burden (x : Member I) : Burden I :=
  (level x.job, if x.result = none then 1 else 0, x.rest)

/-- What the members of a crew have before them. -/
def Crew.burden (c : Crew I W) : Multiset (Burden I) := c.members.map (Member.burden level)

end

theorem coe_map_modify {β γ : Type} (b : β → γ) (f : β → β) :
    ∀ (l : List β) (t : Nat) (x : β), l[t]? = some x →
      (((l.modify t f).map b : List γ) : Multiset γ) + {b x} = (l.map b : List γ) + {b (f x)} := by
  intro l
  induction l with
  | nil => exact fun t x hx => by simp at hx
  | cons y l ih =>
    intro t x hx
    cases t with
    | zero =>
      obtain rfl : y = x := by simpa using hx
      simp only [List.modify_zero_cons, List.map_cons, ← Multiset.cons_coe, ← Multiset.singleton_add]
      exact add_right_comm _ _ _ |>.trans (add_assoc _ _ _ |>.trans (add_comm _ _))
    | succ t =>
      have hl := ih t x (by simpa using hx)
      simp only [List.modify_succ_cons, List.map_cons, ← Multiset.cons_coe, Multiset.cons_add]
      rw [hl]

theorem map_modify_same {β γ : Type} {b : β → γ} {f : β → β} (hf : ∀ x, b (f x) = b x) (l : List β)
    (t : Nat) : (l.modify t f).map b = l.map b := by
  induction l generalizing t with
  | nil => simp
  | cons y l ih => cases t <;> simp [hf, ih]

namespace Crew

variable {m : Machine I W} {outside : I.Call → Prop} {c c' d : Crew I W} {e : Event I}
  {level : I.Job → Nat} {isTold : Bool}

theorem burden_tell (t : TaskId) : (c.tell t).burden level = c.burden level :=
  congrArg Multiset.ofList (map_modify_same (b := Member.burden level)
    (f := fun x => { x with isTold := true }) (fun _ => rfl) c.members t)

theorem burden_alter (level : I.Job → Nat) {t : TaskId} {x : Member I}
    (hx : c.members[t]? = some x) (f : Member I → Member I) :
    (c.alter t f).burden level + {x.burden level} = c.burden level + {(f x).burden level} :=
  coe_map_modify (Member.burden level) f c.members t x hx

theorem Allows.burden (level : I.Job → Nat) {deed : Deed I} (ha : Allows m c isTold deed c') :
    ∃ s, c'.burden level = c.burden level + s ∧
      ∀ b ∈ s, ∃ job u, deed = .start job u ∧ b = (level job, 1, m.program job) := by
  cases ha with
  | ask | wait | late => exact ⟨0, (add_zero _).symm, by simp⟩
  | breakOff on h => cases on <;> exact ⟨0, (add_zero _).symm, by simp⟩
  | stop t => exact ⟨0, (burden_tell t).trans (add_zero _).symm, by simp⟩
  | start job ht =>
    refine ⟨{(level job, 1, m.program job)}, ?_, fun b hb => ⟨job, _, rfl, by simpa using hb⟩⟩
    simp only [Crew.burden, Crew.start, List.map_append, ← Multiset.coe_add]
    rfl

/-- In every move one member is replaced by finitely many that are less, as long as jobs go down. -/
theorem Step.cutExpand (h : Step m outside c e d)
    (hlevel : ∀ t job u x, e = .act t (.start job u) → c.members[t]? = some x →
      level job < level x.job) :
    (e.IsMove → Relation.CutExpand Lighter (d.burden level) (c.burden level)) ∧
      (¬ e.IsMove → d.burden level = c.burden level) := by
  have hends : ∀ {t x r}, c.members[t]? = some x → x.result = none →
      Relation.CutExpand Lighter ((c.finish t r).burden level) (c.burden level) := by
    intro t x r hx hr
    refine ⟨{Member.burden level { x with result := some r }}, x.burden level, ?_,
      burden_alter level hx _⟩
    intro b hb
    obtain rfl := Multiset.mem_singleton.1 hb
    refine .right _ (.left _ _ ?_)
    simp [hr]
  cases h with
  | finish hx hr | giveUp hx hr | balk hx hr =>
    exact ⟨fun _ => hends hx hr, fun hmove => absurd trivial hmove⟩
  | tell t => exact ⟨False.elim, fun _ => burden_tell t⟩
  | pass => exact ⟨False.elim, fun _ => burden_tell _⟩
  | happen => exact ⟨False.elim, fun _ => rfl⟩
  | @act t x deed p c₁ hx hr hd ha =>
    refine ⟨fun _ => ?_, fun hmove => absurd trivial hmove⟩
    -- the member as the step leaves it, apart from what is left of its program
    obtain ⟨y, hy⟩ : ∃ y, c₁.members[t]? = some y := by
      have hlt : t < c₁.members.length := by
        rcases ha.length with hlen | ⟨-, hlen⟩ <;> rw [hlen]
        · exact lt_of_member hx
        · exact Nat.lt_succ_of_lt (lt_of_member hx)
      exact ⟨_, List.getElem?_eq_getElem hlt⟩
    have hsame : y = { x with isTold := y.isTold } := by
      rcases ha.member hy with ⟨x', hx', heq, -⟩ | ⟨job, -, hlen, -⟩
      · obtain rfl : x = x' := Option.some.inj (hx.symm.trans hx')
        exact heq
      · exact absurd (lt_of_member hx) (hlen ▸ Nat.lt_irrefl _)
    have hburden : y.burden level = x.burden level := by rw [hsame]; rfl
    obtain ⟨s, hs, hstarted⟩ := ha.burden level
    refine ⟨{Member.burden level { y with rest := p, hasBegun := true }} + s, x.burden level, ?_, ?_⟩
    · intro b hb
      rcases Multiset.mem_add.1 hb with hb | hb
      · obtain rfl := Multiset.mem_singleton.1 hb
        rw [hsame, Member.burden, Member.burden]
        simp only [hr]
        exact .right _ (.right _ ⟨deed, hd⟩)
      · obtain ⟨job, u, rfl, rfl⟩ := hstarted b hb
        exact .left _ _ (hlevel t job u x rfl hx)
    · have hchange := burden_alter level hy fun x => { x with rest := p, hasBegun := true }
      rw [hburden, hs] at hchange
      rw [Crew.goOn, hchange, add_assoc, add_comm s]

/-- In no way of going on are there moves without end, as long as jobs go down: from some time on,
things only happen outside. -/
theorem moves_end (level : I.Job → Nat) {run : Nat → Crew I W} {events : Nat → Event I}
    (hstep : ∀ n, Step m outside (run n) (events n) (run (n + 1)))
    (hlevel : ∀ n t job u x, events n = .act t (.start job u) → (run n).members[t]? = some x →
      level job < level x.job) :
    ∃ n, ∀ k, n ≤ k → ¬ (events k).IsMove := by
  have hwf : WellFounded (Relation.CutExpand (Lighter (I := I))) := wellFounded_lighter.cutExpand
  have hend : ∀ s n, (run n).burden level = s → ∃ n', ∀ k, n' ≤ k → ¬ (events k).IsMove := by
    intro s
    induction s using hwf.induction with
    | h s ih =>
      intro n hn
      by_cases hmove : ∃ k, (events (n + k)).IsMove
      · classical
        -- nothing changes until the first move, and then there is less
        have hfirst := Nat.find_spec hmove
        have hsame : ∀ k ≤ Nat.find hmove, (run (n + k)).burden level = s := by
          intro k
          induction k with
          | zero => exact fun _ => hn
          | succ k ihk =>
            intro hk
            have hstill := ((hstep (n + k)).cutExpand (hlevel _)).2 (Nat.find_min hmove hk)
            exact hstill.trans (ihk (Nat.le_of_succ_le hk))
        have hless := ((hstep (n + Nat.find hmove)).cutExpand (hlevel _)).1 hfirst
        rw [hsame _ (Nat.le_refl _)] at hless
        exact ih _ hless _ rfl
      · refine ⟨n, fun k hk hmoves => hmove ⟨k - n, ?_⟩⟩
        rwa [Nat.add_sub_cancel' hk]
  exact hend _ 0 rfl

end Crew
end BrowserPlan.Task
