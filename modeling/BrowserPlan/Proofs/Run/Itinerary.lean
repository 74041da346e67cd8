import BrowserPlan.Proofs.Run.Isolation
import BrowserPlan.Proofs.Run.Trek
import Mathlib

/-!
# The steps of a run

In every history of a run each place of the plan is come to at most once, whatever order its tasks go on
in: what a task may still come to is cut off from what the others may, and from what was left behind
(`OnTheWay`). So the steps that begin are at different places, and their indices tell the numbers of
their iterations and no more (`steps_begin_once`).
-/
namespace BrowserPlan.Run

open BrowserPlan.Task BrowserPlan.Browser
open BrowserPlan.Step (HasBody)

/-- The step that begins in an event, with its index. -/
def Event.begun? : Event scene → Option (Action × IterationIndex)
  | .act _ (.ask (.openSpan action index) _) => some (action, index)
  | _ => none

/-- The steps that begin in a history, in their order. -/
def begunIn (h : List (Event scene)) : List (Action × IterationIndex) := h.filterMap Event.begun?

/-- The step at the place `s` of `steps` does this, and with this index. -/
def Place.Holds (steps : List Step) (s : Place) (b : Action × IterationIndex) : Prop :=
  ∃ body step, HasBody steps s.iteration body ∧ body[s.number]? = some step ∧
    b = (step.action, s.iteration.index)

/-! ## What is still to come -/

/-- `g` tells for each of `n` tasks which places it may still come to, and `places` are left behind: no two
of these overlap. -/
structure Divided (n : Nat) (g : TaskId → Set Place) (places : List Place) : Prop where
  unborn : ∀ t, n ≤ t → g t = ∅
  apart : ∀ t u, t ≠ u → Disjoint (g t) (g u)
  left : ∀ t, ∀ s ∈ places, s ∉ g t
  nodup : places.Nodup

namespace Divided

variable {n n' : Nat} {g : TaskId → Set Place} {places : List Place} {t : TaskId}

theorem le (hg : Divided n g places) (hn : n ≤ n') : Divided n' g places :=
  { hg with unborn := fun t ht => hg.unborn t (hn.trans ht) }

theorem update_subset {B : Set Place} (hB : B ⊆ g t) (u : TaskId) : Function.update g t B u ⊆ g u := by
  by_cases hut : u = t
  · subst hut
    rw [Function.update_self]
    exact hB
  · rw [Function.update_of_ne hut]

/-- One task has come to a place. -/
theorem come (hg : Divided n g places) {s : Place} (hs : s ∈ g t) :
    Divided n (Function.update g t (g t \ {s})) (places ++ [s]) := by
  have hsub := update_subset (g := g) (t := t) (B := g t \ {s}) Set.sdiff_subset
  constructor
  case unborn => exact fun u hu => Set.subset_empty_iff.1 (hg.unborn u hu ▸ hsub u)
  case apart => exact fun u v huv => (hg.apart u v huv).mono (hsub u) (hsub v)
  case left =>
    intro u x hx
    rcases List.mem_append.1 hx with hx | hx
    · exact fun h => hg.left u x hx (hsub u h)
    · obtain rfl := List.mem_singleton.1 hx
      by_cases hut : u = t
      · subst hut
        rw [Function.update_self]
        exact fun h => h.2 rfl
      · rw [Function.update_of_ne hut]
        exact fun h => Set.disjoint_left.1 (hg.apart u t hut) h hs
  case nodup =>
    refine List.nodup_append.2 ⟨hg.nodup, List.nodup_singleton _, ?_⟩
    rintro x hx _ hnew rfl
    rw [List.mem_singleton.1 hnew] at hx
    exact hg.left t _ hx hs

/-- One task has left a part of its places to a new one. -/
theorem leave (hg : Divided n g places) {B : Set Place} (hB : B ⊆ g t) :
    Divided (n + 1) (Function.update (Function.update g t (g t \ B)) n B) places := by
  have hsub := update_subset (g := g) (t := t) (B := g t \ B) Set.sdiff_subset
  -- what the others have does not meet what is left to the new one
  have hapart : ∀ u, Disjoint (Function.update g t (g t \ B) u) B := by
    intro u
    by_cases hut : u = t
    · subst hut
      rw [Function.update_self]
      exact Set.disjoint_sdiff_left
    · rw [Function.update_of_ne hut]
      exact (hg.apart u t hut).mono_right hB
  constructor
  case unborn =>
    intro u hu
    rw [Function.update_of_ne (Nat.ne_of_gt hu)]
    exact Set.subset_empty_iff.1 (hg.unborn u (Nat.le_of_succ_le hu) ▸ hsub u)
  case apart =>
    intro u v huv
    by_cases hu : u = n <;> by_cases hv : v = n
    · exact absurd (hu.trans hv.symm) huv
    · rw [hu, Function.update_self, Function.update_of_ne hv]
      exact (hapart v).symm
    · rw [hv, Function.update_self, Function.update_of_ne hu]
      exact hapart u
    · rw [Function.update_of_ne hu, Function.update_of_ne hv]
      exact (hg.apart u v huv).mono (hsub u) (hsub v)
  case left =>
    intro u x hx
    by_cases hu : u = n
    · rw [hu, Function.update_self]
      exact fun h => hg.left t x hx (hB h)
    · rw [Function.update_of_ne hu]
      exact fun h => hg.left u x hx (hsub u h)
  case nodup => exact hg.nodup

end Divided

/-! ## The invariant -/

/-- After the history `h` the members of the crew `c` are on their way through `steps`: `g` tells which
places each may still come to, and `places` are those whose steps have begun. -/
structure OnTheWay {W : Type} (steps : List Step) (h : List (Event scene)) (c : Crew scene W)
    (g : TaskId → Set Place) (places : List Place) : Prop where
  keeps : c.Keeps (fun _ => True) (Treads steps) g
  divided : Divided c.members.length g places
  begun : List.Forall₂ (Place.Holds steps) places (begunIn h)

section
variable {W : Type} {m : Machine scene W} {steps : List Step} {h : List (Event scene)}
  {c c' : Crew scene W} {g : TaskId → Set Place} {places : List Place} {e : Event scene}

theorem begunIn_skip (he : Event.begun? e = none) : begunIn (h ++ [e]) = begunIn h := by
  simp [begunIn, he]

theorem OnTheWay.idle (ho : OnTheWay steps h c g places) (hs : Crew.Step m IsOutside c e c')
    (he : ∀ t d, e ≠ .act t d) : OnTheWay steps (h ++ [e]) c' g places where
  keeps := ho.keeps.idle hs he
  divided := ho.divided.le hs.length_le
  begun := by
    rw [begunIn_skip]
    · exact ho.begun
    · cases e <;> first | rfl | exact absurd rfl (he _ _)

/-- A task that takes a step goes on the way. -/
theorem OnTheWay.act (hm : m.program = program) (ho : OnTheWay steps h c g places) {t : TaskId}
    {d : Deed scene} (hs : Crew.Step m IsOutside c (.act t d) c') :
    ∃ g' places', OnTheWay steps (h ++ [.act t d]) c' g' places' := by
  obtain ⟨A', hnext, hkeeps⟩ := ho.keeps.act hs trivial
  generalize hA : g t = A at hnext
  cases hnext with
  | step n hbody hstep hin =>
    refine ⟨_, _, hkeeps _ (Function.update_self ..) (fun u hut _ => Function.update_of_ne hut ..) ?_,
      hA ▸ (ho.divided.come (hA ▸ hin)).le hs.length_le, ?_⟩
    · rintro _ _ ⟨⟩
    · rw [begunIn, List.filterMap_append]
      exact List.rel_append ho.begun (.cons ⟨_, _, hbody, hstep, rfl⟩ .nil)
  | @branch it _ i _ _ _ sub n link u hbody hstep hn hin =>
    obtain ⟨rfl, ht, hlength⟩ := hs.started_last
    have hleave := ho.divided.leave (B := {s | s.IsIn (it ++ [(i, n)])}) fun s h => hA ▸ hin s h
    refine ⟨_, places, hkeeps _ ?_ (fun u hut hu => ?_) ?_, hlength ▸ hleave, ?_⟩
    · rw [Function.update_of_ne (Nat.ne_of_lt ht), Function.update_self, hA]
    · rw [Function.update_of_ne (Nat.ne_of_lt hu), Function.update_of_ne hut]
    · rintro _ _ ⟨⟩
      rw [hm, Function.update_self]
      exact Program.Obeys.weaken (fun _ _ _ => trivial) (goes_branch link (.link hbody hstep hn) fun _ h => h)
    · rw [begunIn_skip rfl]
      exact ho.begun
  | aside hd =>
    refine ⟨g, places, hkeeps _ hA (fun _ _ _ => rfl) ?_, ho.divided.le hs.length_le, ?_⟩
    · rintro job u rfl
      rw [hm]
      exact Program.Obeys.weaken (fun _ _ _ => trivial)
        ((aside_program hd).obeys (R := fun _ => True) fun _ hd => Treads.aside hd)
    · rw [begunIn_skip]
      · exact ho.begun
      · cases d with
        | ask q a => cases q <;> first | rfl | exact hd.elim
        | _ => rfl

end

/-- Every history of a run is on the way through its plan. -/
theorem exists_onTheWay {W : Type} {m : Machine scene W} (hm : m.program = program) {w : W} {plan : Plan}
    {engine : String} {h : List (Event scene)} {c : Crew scene W}
    (hr : Crew.Reaches m IsOutside (Crew.single m w (.automation plan engine)) h c) :
    ∃ g places, OnTheWay plan.steps h c g places := by
  induction hr with
  | refl =>
    let g : TaskId → Set Place := Function.update (fun _ => ∅) 0 Set.univ
    have hg : ∀ u, u ≠ 0 → g u = ∅ := fun u hu => Function.update_of_ne hu ..
    refine ⟨g, [], ?_, ⟨fun u hu => hg u (Nat.ne_of_gt hu), fun t u htu => ?_, nofun, .nil⟩, .nil⟩
    · refine .single w (s := Set.univ) ?_ rfl
      rw [hm]
      exact Program.Obeys.weaken (fun _ _ _ => trivial) (goes_automation plan engine)
    · by_cases ht : t = 0
      · rw [hg u fun hu => htu (ht.trans hu.symm)]
        exact Set.disjoint_empty _
      · rw [hg t ht]
        exact Set.empty_disjoint _
  | @step h c e c' _ hs ih =>
    obtain ⟨g, places, ho⟩ := ih
    by_cases he : ∃ t d, e = .act t d
    · obtain ⟨t, d, rfl⟩ := he
      exact ho.act hm hs
    · exact ⟨g, places, ho.idle hs fun t d heq => he ⟨t, d, heq⟩⟩

/-- In every history of every run the steps that begin are at different places of the plan. Their indices
are written alike exactly where the numbers of their iterations agree; so they tell iterations apart if no
list of steps that is carried out has two steps with iterations. -/
theorem steps_begin_once {W : Type} {m : Machine scene W} (hm : m.program = program) (w : W) (plan : Plan)
    (engine : String) (h : List (Event scene)) (c : Crew scene W)
    (hr : Crew.Reaches m IsOutside (Crew.single m w (.automation plan engine)) h c) :
    ∃ places : List Place, places.Nodup ∧
      List.Forall₂ (Place.Holds plan.steps) places (begunIn h) ∧
      (∀ s ∈ places, ∀ s' ∈ places, s.iteration.index.toString = s'.iteration.index.toString ↔
        s.iteration.numbers = s'.iteration.numbers) ∧
      (Step.IsSingleFile plan.steps → ∀ s ∈ places, ∀ s' ∈ places,
        s.iteration.index.toString = s'.iteration.index.toString → s.iteration = s'.iteration) := by
  obtain ⟨g, places, ho⟩ := exists_onTheWay hm hr
  have hbody : ∀ s ∈ places, ∃ body, HasBody plan.steps s.iteration body :=
    ((List.forall₂_and_left _ _).1 (ho.begun.imp fun _ _ hs => ⟨hs.imp fun _ ⟨_, hbody, _⟩ => hbody, hs⟩)).1
  have halike : ∀ s ∈ places, ∀ s' ∈ places,
      s.iteration.index.toString = s'.iteration.index.toString ↔
        s.iteration.numbers = s'.iteration.numbers := by
    intro s hs s' hs'
    obtain ⟨body, hbody₁⟩ := hbody s hs
    obtain ⟨body', hbody₂⟩ := hbody s' hs'
    exact hbody₁.toString_index_eq_iff hbody₂
  refine ⟨places, ho.divided.nodup, ho.begun, halike, fun hsingle s hs s' hs' heq => ?_⟩
  obtain ⟨body, hbody₁⟩ := hbody s hs
  obtain ⟨body', hbody₂⟩ := hbody s' hs'
  exact hsingle.iteration_eq hbody₁ hbody₂ ((halike s hs s' hs').1 heq)

/-- Two repetitions in one list, as a document: each takes one picture. -/
def siblingDocument : Json :=
  let once (path : String) : Json := .obj [("action", .str "repeat"), ("times", .int 1),
    ("subSteps", .arr [.obj [("action", .str "screenshot"), ("path", .str path)]])]
  .obj [("url", .str "http://a/"), ("steps", .arr [once "$i.png", once "$i.png"])]

/-- Two pictures are taken at different places of the plan, and yet at the same index. -/
theorem steps_begin_once_siblings : ∃ plan h c places,
    Plan.ofJson {} none siblingDocument = .ok plan ∧
    Crew.Reaches machine IsOutside (Crew.single machine (World.ofSite {} ⟨[]⟩)
      (.automation plan "chromium")) h c ∧
    begunIn h = [(.repeat, .root), (.screenshot, .child .root 1), (.repeat, .root),
      (.screenshot, .child .root 1)] ∧
    places.Nodup ∧ List.Forall₂ (Place.Holds plan.steps) places (begunIn h) := by
  have hplay : (Plan.ofJson {} none siblingDocument).toOption.any (fun plan =>
      (Crew.rehearse machine (List.replicate 68 0) (Crew.single machine (World.ofSite {} ⟨[]⟩)
        (.automation plan "chromium"))).any fun x =>
          begunIn x.1 == [(.repeat, .root), (.screenshot, .child .root 1), (.repeat, .root),
            (.screenshot, .child .root 1)]) = true := by
    decide +kernel
  cases hok : Plan.ofJson {} none siblingDocument with
  | error =>
    rw [hok] at hplay
    cases hplay
  | ok plan =>
  rw [hok] at hplay
  obtain ⟨_, ⟨⟩, hplay⟩ := (Option.any_eq_true _ _).1 hplay
  obtain ⟨⟨h, c⟩, hrun, hbegun⟩ := (Option.any_eq_true _ _).1 hplay
  have hr : Crew.Reaches machine IsOutside (Crew.single machine (World.ofSite {} ⟨[]⟩)
      (.automation plan "chromium")) h c := Crew.reaches_of_rehearse .refl hrun
  obtain ⟨places, hnodup, hplaces, -⟩ :=
    steps_begin_once rfl (World.ofSite {} ⟨[]⟩) plan "chromium" h c hr
  exact ⟨plan, h, c, places, rfl, hr, eq_of_beq hbegun, hnodup, hplaces⟩

end BrowserPlan.Run
