import BrowserPlan.Proofs.Task.Conduct
import BrowserPlan.Proofs.Task.Halting

/-!
# A part of a crew's work

While the first task of a crew is busy with a part `q` of its program, the crew goes on like another one
whose first task has nothing to do but that part. `Mirrors` says of two crews that they stand alike, and
`Mirrors.step` that whatever the first one does, the second one can do; where the second one can move, so
can the first one (`Mirrors.canMove`). While a task of a crew takes no step, the others go on as if it had
ended (`Step.without`).
-/
namespace BrowserPlan.Task

variable {I : Interface} {W α β : Type}

namespace Program

variable {p q : Program I α} {d : Deed I} {u : TaskId}

/-- A program that waits for a task does so whatever comes after it. -/
theorem WaitsFor.first (hp : ∀ r, p ≠ done r) {f : Outcome I.Fault α → Program I β}
    (h : (p.attempt.bind f).WaitsFor u) (g : α → Program I β) : (p.bind g).WaitsFor u := by
  cases p with
  | done r => exact absurd rfl (hp r)
  | await t next => cases h; exact .await _
  | gather ts patient next =>
    cases h with
    | gather _ _ hu => exact .gather _ _ hu
  | _ => cases h

end Program

namespace Crew

/-- The crews `c` and `c'` differ only in what their first tasks do after the program `q`, in which both
of them are, and in signals that were given before. -/
structure Mirrors (f : Outcome I.Fault α → Program I I.Result) (g : α → Program I I.Result)
    (before : List (I.Signal × Outcome I.Fault Unit)) (c c' : Crew I W) (q : Program I α) : Prop where
  world : c.world = c'.world
  given : c.given = before ++ c'.given
  length : c.members.length = c'.members.length
  others : ∀ t, t ≠ 0 → c.members[t]? = c'.members[t]?
  first : ∃ x x', c.members[0]? = some x ∧ c'.members[0]? = some x' ∧ x.result = none ∧
    x'.result = none ∧ x.isTold = x'.isTold ∧ x.rest = q.attempt.bind f ∧ x'.rest = q.bind g

namespace Mirrors

variable {m : Machine I W} {outside : I.Call → Prop} {f : Outcome I.Fault α → Program I I.Result}
  {g : α → Program I I.Result} {before : List (I.Signal × Outcome I.Fault Unit)}
  {c c' d c₁ : Crew I W} {q q' : Program I α} {e : Event I} {t : TaskId}

theorem result? (h : Mirrors f g before c c' q) (t : TaskId) : c.result? t = c'.result? t := by
  by_cases ht : t = 0
  · subst ht
    obtain ⟨x, x', hx, hx', hr, hr', -⟩ := h.first
    rw [Crew.result?, Crew.result?, hx, hx', Option.bind_some, Option.bind_some, hr, hr']
  · rw [Crew.result?, Crew.result?, h.others t ht]

/-! ## Changes on both sides -/

theorem tell (h : Mirrors f g before c c' q) (t : TaskId) :
    Mirrors f g before (c.tell t) (c'.tell t) q where
  world := h.world
  given := h.given
  length := by rw [Crew.tell, Crew.tell, length_alter, length_alter, h.length]
  others u hu := by
    rw [Crew.tell, Crew.tell, members_alter, members_alter, h.others u hu]
  first := by
    obtain ⟨x, x', hx, hx', hr, hr', htold, hrest⟩ := h.first
    rw [Crew.tell, Crew.tell, members_alter, members_alter, hx, hx']
    split
    · exact ⟨_, _, rfl, rfl, hr, hr', rfl, hrest⟩
    · exact ⟨x, x', rfl, rfl, hr, hr', htold, hrest⟩

theorem alter (h : Mirrors f g before c c' q) (ht : t ≠ 0) (change : Member I → Member I) :
    Mirrors f g before (c.alter t change) (c'.alter t change) q where
  world := h.world
  given := h.given
  length := by rw [length_alter, length_alter, h.length]
  others u hu := by rw [members_alter, members_alter, h.others u hu]
  first := by
    obtain ⟨x, x', hx, hx', hrest⟩ := h.first
    rw [members_alter, members_alter, if_neg ht, if_neg ht]
    exact ⟨x, x', hx, hx', hrest⟩

theorem perform (h : Mirrors f g before c c' q) (now : Nat) (call : I.Call) :
    Mirrors f g before (c.perform m now call) (c'.perform m now call) q where
  world := by rw [Crew.perform, Crew.perform, h.world]
  given := by rw [Crew.perform, Crew.perform, h.world, h.given, List.append_assoc]
  length := h.length
  others := h.others
  first := h.first

theorem forsake (h : Mirrors f g before c c' q) (on : Pause I.Signal) :
    Mirrors f g before (c.forsake m on) (c'.forsake m on) q := by
  cases on with
  | signal s =>
    exact ⟨congrArg (m.forsake · s) h.world, h.given, h.length, h.others, h.first⟩
  | timer | forever => exact h

theorem start (h : Mirrors f g before c c' q) (job : I.Job) :
    Mirrors f g before (c.start m job) (c'.start m job) q where
  world := h.world
  given := h.given
  length := by rw [Crew.start, Crew.start, List.length_append, List.length_append, h.length]
  others u hu := by
    rw [Crew.start, Crew.start, List.getElem?_append, List.getElem?_append, h.others u hu, h.length]
  first := by
    obtain ⟨x, x', hx, hx', hrest⟩ := h.first
    refine ⟨x, x', ?_, ?_, hrest⟩
    · exact (List.getElem?_append_left (lt_of_member hx)).trans hx
    · exact (List.getElem?_append_left (lt_of_member hx')).trans hx'

/-- The first task takes a step in the program in which it is. -/
theorem goOn (h : Mirrors f g before c c' q) (q' : Program I α) :
    Mirrors f g before (c.goOn 0 (q'.attempt.bind f)) (c'.goOn 0 (q'.bind g)) q' where
  world := h.world
  given := h.given
  length := by rw [Crew.goOn, Crew.goOn, length_alter, length_alter, h.length]
  others u hu := by
    rw [Crew.goOn, Crew.goOn, members_alter, members_alter, if_neg hu.symm, if_neg hu.symm,
      h.others u hu]
  first := by
    obtain ⟨x, x', hx, hx', hr, hr', htold, -⟩ := h.first
    exact ⟨_, _, members_alter_self hx _, members_alter_self hx' _, hr, hr', htold, rfl, rfl⟩

/-! ## Steps -/

/-- No signal that `deed` waits for was given before. -/
def Spares (before : List (I.Signal × Outcome I.Fault Unit)) (deed : Deed I) : Prop :=
  ∀ s r, deed = .wake (.signal s) r → ∀ r', (s, r') ∉ before

theorem offers (h : Mirrors f g before c c' q) {deed : Deed I} (hd : Spares before deed)
    (ho : c.Offers deed) : c'.Offers deed := by
  cases ho with
  | timer micros => exact .timer micros
  | @signal s r hin =>
    rw [h.given] at hin
    exact .signal ((List.mem_append.1 hin).resolve_left (hd s r rfl r))
  | learn hr => exact .learn (h.result? _ ▸ hr)
  | all hall => exact .all fun t ht => h.result? t ▸ hall t ht
  | good hall => exact .good fun t ht => h.result? t ▸ hall t ht
  | bad ht hs => exact .bad ht (h.result? _ ▸ hs)

/-- What the one crew allows a task to do, the other one allows. -/
theorem allows (h : Mirrors f g before c c' q) {isTold : Bool} {deed : Deed I}
    (hd : Spares before deed) (ha : Allows m c isTold deed c₁) :
    ∃ c₁', Allows m c' isTold deed c₁' ∧ Mirrors f g before c₁ c₁' q := by
  cases ha with
  | @ask call x now hx => exact ⟨_, .ask now (h.world ▸ hx), h.perform now call⟩
  | start job ht => exact ⟨_, .start job (ht.trans h.length), h.start job⟩
  | stop t => exact ⟨_, .stop t, h.tell t⟩
  | wait ho => exact ⟨c', .wait (h.offers hd ho), h⟩
  | breakOff on htold => exact ⟨_, .breakOff on htold, h.forsake on⟩
  | @late _ e htold he heq =>
    have hspares : Spares before e := by
      intro s r hr
      subst hr
      exact hd s _ heq
    exact ⟨c', .late htold (h.offers hspares he) heq, h⟩

/-- Whatever the one crew does while its first task is in the program `q`, the other one can do. -/
theorem step (h : Mirrors f g before c c' q) (hq : ∀ r, q ≠ .done r) (he : Step m outside c e d)
    (hbefore : ∀ t deed, e = .act t deed → Spares before deed) (hbalk : e ≠ .balk 0) :
    ∃ d' q', Step m outside c' e d' ∧ Mirrors f g before d d' q' ∧
      (q' = q ∧ (∀ deed, e ≠ .act 0 deed) ∨ ∃ deed, e = .act 0 deed ∧ q.Does deed q') := by
  obtain ⟨x₀, x₀', hx₀, hx₀', hr₀, hr₀', htold₀, hrest, hrest'⟩ := h.first
  have hfinish : ∀ {x r}, c.members[0]? = some x → x.rest ≠ .done r := by
    intro x r hx hdone
    obtain rfl : x₀ = x := Option.some.inj (hx₀.symm.trans hx)
    rw [hrest] at hdone
    cases q with
    | done r => exact hq r rfl
    | _ => cases hdone
  -- the same task on the other side
  have hother : ∀ {t x}, t ≠ 0 → c.members[t]? = some x → c'.members[t]? = some x :=
    fun ht hx => (h.others _ ht).symm.trans hx
  cases he with
  | @act t x deed p c₁ hx hr hd ha =>
    obtain ⟨c₁', ha', h₁⟩ := h.allows (hbefore t deed rfl) ha
    by_cases ht : t = 0
    · subst ht
      obtain rfl : x₀ = x := Option.some.inj (hx₀.symm.trans hx)
      rw [hrest] at hd
      obtain ⟨q', hdoes, rfl⟩ := hd.attempt_bind hq
      exact ⟨_, q', .act hx₀' hr₀' (hrest' ▸ hdoes.first g) (htold₀ ▸ ha'), h₁.goOn q',
        .inr ⟨deed, rfl, hdoes⟩⟩
    · refine ⟨_, q, .act (hother ht hx) hr hd ha', h₁.alter ht _, .inl ⟨rfl, ?_⟩⟩
      rintro deed' ⟨⟩
      exact ht rfl
  | @finish t x r hx hr hd =>
    have ht : t ≠ 0 := by
      rintro rfl
      exact hfinish hx hd
    exact ⟨_, q, .finish (hother ht hx) hr hd, h.alter ht _, .inl ⟨rfl, nofun⟩⟩
  | @giveUp t x a hx hr hd htold =>
    have ht : t ≠ 0 := by
      rintro rfl
      exact hfinish hx hd
    exact ⟨_, q, .giveUp (hother ht hx) hr hd htold, h.alter ht _, .inl ⟨rfl, nofun⟩⟩
  | @balk t x hx hr hb htold =>
    have ht : t ≠ 0 := by
      rintro rfl
      exact hbalk rfl
    exact ⟨_, q, .balk (hother ht hx) hr hb htold, h.alter ht _, .inl ⟨rfl, nofun⟩⟩
  | tell t => exact ⟨_, q, .tell t, h.tell t, .inl ⟨rfl, nofun⟩⟩
  | @pass t x u hx hr htold hu =>
    refine ⟨_, q, ?_, h.tell u, .inl ⟨rfl, nofun⟩⟩
    by_cases ht : t = 0
    · subst ht
      obtain rfl : x₀ = x := Option.some.inj (hx₀.symm.trans hx)
      rw [hrest] at hu
      exact .pass hx₀' hr₀' (htold₀ ▸ htold) (hrest' ▸ hu.first hq g)
    · exact .pass (hother ht hx) hr htold hu
  | happen now call hcall => exact ⟨_, q, .happen now call hcall, h.perform now call, .inl ⟨rfl, nofun⟩⟩

/-! ## The other way round -/

/-- Whatever can end a wait in the second crew can end it in the first one. -/
theorem offers_back (h : Mirrors f g before c c' q) {deed : Deed I} (ho : c'.Offers deed) :
    c.Offers deed :=
  ho.mono (fun _ hin => h.given ▸ List.mem_append_right _ hin) fun t _ hr => h.result? t ▸ hr

theorem allows_back (h : Mirrors f g before c c' q) {isTold : Bool} {deed : Deed I}
    (ha : Allows m c' isTold deed c₁) : ∃ c₂, Allows m c isTold deed c₂ := by
  cases ha with
  | ask now hx => exact ⟨_, .ask now (h.world ▸ hx)⟩
  | start job ht => exact ⟨_, .start job (ht.trans h.length.symm)⟩
  | stop t => exact ⟨_, .stop t⟩
  | wait ho => exact ⟨c, .wait (h.offers_back ho)⟩
  | breakOff on htold => exact ⟨_, .breakOff on htold⟩
  | late htold he heq => exact ⟨c, .late htold (h.offers_back he) heq⟩

/-- If somebody can move in the second crew, somebody can move in the first one, unless the first task
was told to give up. -/
theorem canMove (h : Mirrors f g before c c' q) (hq : ∀ r, q ≠ .done r)
    (huntold : ∀ x, c'.members[0]? = some x → x.isTold = false) (hmove : c'.CanMove m outside) :
    c.CanMove m outside := by
  obtain ⟨e, d', he, hmoves⟩ := hmove
  obtain ⟨x₀, x₀', hx₀, hx₀', hr₀, hr₀', htold₀, hrest, hrest'⟩ := h.first
  have hother : ∀ {t x}, t ≠ 0 → c'.members[t]? = some x → c.members[t]? = some x :=
    fun ht hx => (h.others _ ht).trans hx
  have hdone : ∀ {t x r}, c'.members[t]? = some x → x.rest = .done r → t ≠ 0 := by
    rintro t x r hx hd rfl
    obtain rfl : x₀' = x := Option.some.inj (hx₀'.symm.trans hx)
    rw [hrest'] at hd
    cases q with
    | done r => exact hq r rfl
    | _ => cases hd
  cases he with
  | @act t x deed p c₁ hx hr hd ha =>
    obtain ⟨c₂, ha⟩ := h.allows_back ha
    by_cases ht : t = 0
    · subst ht
      obtain rfl : x₀' = x := Option.some.inj (hx₀'.symm.trans hx)
      rw [hrest'] at hd
      rcases hd.bind with ⟨a, rfl, -⟩ | ⟨q', hdoes, -⟩
      · exact absurd rfl (hq _)
      · obtain ⟨p, hp⟩ : ∃ p, x₀.rest.Does deed p := by
          rw [hrest]
          cases hdoes <;> exact ⟨_, by constructor⟩
        exact ⟨_, _, .act hx₀ hr₀ hp (htold₀ ▸ ha), trivial⟩
    · exact ⟨_, _, .act (hother ht hx) hr hd ha, trivial⟩
  | finish hx hr hd => exact ⟨_, _, .finish (hother (hdone hx hd) hx) hr hd, trivial⟩
  | giveUp hx hr hd htold => exact ⟨_, _, .giveUp (hother (hdone hx hd) hx) hr hd htold, trivial⟩
  | @balk t x hx hr hb htold =>
    have ht : t ≠ 0 := by
      rintro rfl
      rw [huntold x hx] at htold
      cases htold
    exact ⟨_, _, .balk (hother ht hx) hr hb htold, trivial⟩
  | tell | pass | happen => exact hmoves.elim

end Mirrors
end Crew

/-! ## Who takes no step -/

/-- Who takes a step or ends, or tells another one to give up because it was told so itself. -/
def Event.actor? : Event I → Option TaskId
  | act t _ | finish t _ | balk t | pass t _ => some t
  | tell _ | happen _ => none

namespace Crew

section
variable {m : Machine I W} {outside : I.Call → Prop} {c c' : Crew I W} {e : Event I} {a t : TaskId}
  {x : Member I}

/-- Two changes of members that do not get into each other's way. -/
theorem alter_comm {f g : Member I → Member I} (h : t = a → ∀ x, f (g x) = g (f x)) :
    (c.alter t f).alter a g = (c.alter a g).alter t f := by
  refine congrArg (fun l => { c with members := l }) (List.ext_getElem? fun u => ?_)
  change ((c.alter t f).alter a g).members[u]? = ((c.alter a g).alter t f).members[u]?
  rw [members_alter, members_alter, members_alter, members_alter]
  by_cases hta : t = a
  · subst hta
    split
    · rw [Option.map_map, Option.map_map]
      exact congrArg (fun k => Option.map k _) (funext fun x => (h rfl x).symm)
    · rfl
  · by_cases htu : t = u
    · have hau : a ≠ u := fun hau => hta (htu.trans hau.symm)
      rw [if_pos htu, if_neg hau, if_neg hau, if_pos htu]
    · rw [if_neg htu, if_neg htu]

theorem alter_start (hx : c.members[a]? = some x) (f : Member I → Member I) (job : I.Job) :
    (c.start m job).alter a f = (c.alter a f).start m job := by
  refine congrArg (fun l => { c with members := l }) (List.ext_getElem? fun u => ?_)
  have hlt := lt_of_member hx
  change ((c.members ++ [_]).modify a f)[u]? = (c.members.modify a f ++ [_])[u]?
  simp only [List.getElem?_modify, List.getElem?_append, List.length_modify]
  by_cases hau : a = u
  · subst hau
    simp [hlt]
  · simp [hau]

theorem allows_finish {isTold : Bool} {deed : Deed I} (hx : c.members[a]? = some x)
    (hr : x.result = none) (r : Outcome I.Fault I.Result) (ha : Allows m c isTold deed c') :
    Allows m (c.finish a r) isTold deed (c'.finish a r) := by
  cases ha with
  | ask now hans => exact .ask now hans
  | start job ht =>
    have hsame : (c.start m job).finish a r = (c.finish a r).start m job := alter_start hx _ job
    exact hsame ▸ .start job (ht.trans (length_alter ..).symm)
  | stop u =>
    have hsame : (c.tell u).finish a r = (c.finish a r).tell u := alter_comm fun _ _ => rfl
    exact hsame ▸ .stop u
  | wait ho => exact .wait (offers_finish hx hr ho)
  | breakOff on htold =>
    have hsame : (c.forsake m on).finish a r = (c.finish a r).forsake m on := by cases on <;> rfl
    exact hsame ▸ .breakOff on htold
  | late htold ho hd => exact .late htold (offers_finish hx hr ho) hd

/-- While a task takes no step, the others go on as if it had ended. -/
theorem Step.without (he : Step m outside c e c') (hx : c.members[a]? = some x) (hr : x.result = none)
    (r : Outcome I.Fault I.Result) (hactor : e.actor? ≠ some a) :
    Step m outside (c.finish a r) e (c'.finish a r) := by
  have hother : ∀ {t y}, t ≠ a → c.members[t]? = some y → (c.finish a r).members[t]? = some y := by
    intro t y ht hy
    rwa [Crew.finish, members_alter, if_neg ht.symm]
  have hne : ∀ {t}, e.actor? = some t → t ≠ a := fun ht hta => hactor (hta ▸ ht)
  have hends : ∀ {t} {s : Outcome I.Fault I.Result}, t ≠ a →
      (c.finish t s).finish a r = (c.finish a r).finish t s :=
    fun ht => alter_comm fun hta => absurd hta ht
  have htell : ∀ t, (c.tell t).finish a r = (c.finish a r).tell t := fun t => alter_comm fun _ _ => rfl
  cases he with
  | act hy hyr hd ha =>
    have ht := hne rfl
    have hsame : ∀ (d : Crew I W) p, (d.goOn _ p).finish a r = (d.finish a r).goOn _ p :=
      fun d p => alter_comm fun hta => absurd hta ht
    exact hsame _ _ ▸ .act (hother ht hy) hyr hd (allows_finish hx hr r ha)
  | finish hy hyr hd =>
    have ht := hne rfl
    exact hends ht ▸ .finish (hother ht hy) hyr hd
  | giveUp hy hyr hd htold =>
    have ht := hne rfl
    exact hends ht ▸ .giveUp (hother ht hy) hyr hd htold
  | balk hy hyr hb htold =>
    have ht := hne rfl
    exact hends ht ▸ .balk (hother ht hy) hyr hb htold
  | tell t => exact htell t ▸ .tell t
  | pass hy hyr htold hu => exact htell _ ▸ .pass (hother (hne rfl) hy) hyr htold hu
  | happen now call hcall => exact .happen now call hcall

end
end Crew
end BrowserPlan.Task
