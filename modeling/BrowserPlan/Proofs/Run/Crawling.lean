import BrowserPlan.Proofs.Run.Smooth

/-!
# What the tasks of a crawl meet

While a crawl with simple steps goes on, nobody takes a step but the first task and the branches of the
crawl. Each of them works on a page of its own, and in a calm and smooth history in a steady world it meets
nothing but what is wont to be met, wherever its page was before. `Crawling` is the invariant.
-/
namespace BrowserPlan.Run

open BrowserPlan.Task BrowserPlan.Browser

/-- The task works, or it has. -/
def Stage.hasWorked : Stage → Bool
  | working _ | through (.worked _) | noted (.worked _) => true
  | _ => false

theorem Next.hasWorked {F : Findings} {job : Job} {s s' : Stage} {d : Deed scene} (h : Next F job s d s')
    (hs : s.hasWorked = true) : s'.hasWorked = true := by
  cases h with
  | deal h =>
    cases h with
    | release => rfl
    | _ => cases hs
  | note past => cases past <;> first | rfl | cases hs
  | aside => exact hs
  | enter | quiet | executed | share => rfl
  | _ => cases hs

variable {W : Type} {m : Machine scene W} {V : Venue m} {B : Habits} {b : Brief} {F : TaskId → Findings}
  {h : List (Event scene)} {c c' : Crew scene W} {g g' : Stages} {e : Event scene} {t : TaskId} {w₀ : W}
  {s s' : Stage} {job : Job} {d : Deed scene} {steps : List Step}

/-- What a branch has done by the steps `ds` it has done served by habits. Before it works that is so
wherever it sets out from; while it works it is where its page is. -/
structure Tracked (S : Steady V B) (w : W) (ds : List (Deed scene)) (s : Stage) : Prop where
  before : s.hasWorked = false → ∀ u, Along (Serves B) u ds u
  works : ∀ k, s = .working k → ∃ u, Along (Serves B) u ds (S.place w k.page)
  served : ∃ u v, Along (Serves B) u ds v

namespace Tracked

variable {S : Steady V B} {w w' : W} {ds : List (Deed scene)}

theorem first (hs : s.hasWorked = false) : Tracked S w [] s where
  before _ _ := .nil
  works := by
    rintro k rfl
    cases hs
  served := ⟨Page.blank, _, .nil⟩

theorem idle (ht : Tracked S w ds s) (hplace : ∀ k, s = .working k → S.place w' k.page = S.place w k.page) :
    Tracked S w' ds s where
  before := ht.before
  works k hk := hplace k hk ▸ ht.works k hk
  served := ht.served

/-- The branch itself takes a step. -/
theorem next {F : Findings} (ht : Tracked S w ds s) (hnext : Next F job s d s')
    (hworks : ∀ k, s = .working k → Serves B (S.place w k.page) d (S.place w' k.page))
    (hidles : (∀ k, s ≠ .working k) → ∀ u, Serves B u d u) : Tracked S w' (ds ++ [d]) s' where
  before hs' u := by
    have hs : s.hasWorked = false := by
      cases hs : s.hasWorked with
      | false => rfl
      | true => rw [hnext.hasWorked hs] at hs'; cases hs'
    refine (ht.before hs u).snoc (hidles ?_ u)
    rintro k rfl
    cases hs
  works := by
    rintro k rfl
    rcases hnext.works with ⟨k', rfl, hpage, -⟩ | ⟨rfl, -⟩
    · obtain ⟨u, halong⟩ := ht.works k' rfl
      have hserves := hworks k' rfl
      rw [hpage] at halong hserves
      exact ⟨u, halong.snoc hserves⟩
    · exact ⟨_, (ht.before rfl _).snoc (hidles nofun _)⟩
  served := by
    by_cases hs : ∃ k, s = .working k
    · obtain ⟨k, rfl⟩ := hs
      obtain ⟨u, halong⟩ := ht.works k rfl
      exact ⟨u, _, halong.snoc (hworks k rfl)⟩
    · obtain ⟨u, v, halong⟩ := ht.served
      exact ⟨u, v, halong.snoc (hidles (fun k hk => hs ⟨k, hk⟩) v)⟩

end Tracked

/-- While a crawl goes on: by the history `h`, which began when there were `n` tasks and the page of the
first one was at `here`, only that one and branches have done anything, and they have met nothing but what
is wont to be met. -/
structure Crawling (S : Steady V B) (n : Nat) (here : String) (steps : List Step) (h : List (Event scene))
    (c : Crew scene W) (g : Stages) : Prop where
  grown : n ≤ c.members.length
  holds : S.holds c.world
  cast : ∀ (t : TaskId) (x : Member scene), c.members[t]? = some x → x.result = none → t = 0 ∨ n ≤ t
  acts : ∀ (t : TaskId) (d : Deed scene), .act t d ∈ h → t = 0 ∨ n ≤ t
  branches : ∀ (t : TaskId) (x : Member scene), c.members[t]? = some x → n ≤ t →
    ∃ link index, x.job = .branch link index steps
  chief : ∀ k, g 0 = .working k → Along (Serves B) here (deedsOf h 0) (S.place c.world k.page)
  tracked : ∀ t < c.members.length, n ≤ t → Tracked S c.world (deedsOf h t) (g t)

namespace Crawling

variable {S : Steady V B} {n : Nat} {here : String} {h₀ : List (Event scene)} {x : Member scene}

/-- When a crawl begins, the first task has nobody to wait for. -/
theorem first (hf : Follows b V F w₀ h c g) (hh : ∀ e ∈ h, Event.IsCalm e) (hholds : S.holds c.world) {k : Work}
    (hk : g 0 = .working k) (hhelpers : k.helpers = []) (hbranches : k.branches = []) :
    Crawling S c.members.length (S.place c.world b.home) steps [] c g where
  grown := Nat.le_refl _
  holds := hholds
  cast t x hx hgoes := by
    by_contra hne
    push Not at hne
    obtain ⟨k', hk', hleads, -⟩ := hf.inOrder.home
    cases hk.symm.trans hk'
    have hleft : k.IsLeft := by
      cases hstop : k.isStopping with
      | false => exact .inl ⟨hhelpers, hstop, hbranches⟩
      | true => exact .inr ⟨hleads, hhelpers, hstop⟩
    exact absurd hgoes (Option.isSome_iff_ne_none.1 (hf.reunited hh hk hleft hne.1 hx))
  acts _ _ hd := absurd hd List.not_mem_nil
  branches t x hx ht := absurd (Crew.lt_of_member hx) (Nat.not_lt_of_le ht)
  chief k' hk' := by
    obtain ⟨k₀, hk₀, -, hhome⟩ := hf.inOrder.home
    cases hk'.symm.trans hk₀
    exact hhome ▸ .nil
  tracked t ht hn := absurd ht (Nat.not_lt_of_le hn)

theorem helps_nobody (hk : Crawling S n here steps h c g) (ho : InOrder b V F (h₀ ++ h) c g)
    (hx : c.members[t]? = some x) (hgoes : x.result = none) (p : PageId) : ¬ IsHelp p x.job := by
  intro hhelp
  rcases hk.cast t x hx hgoes with rfl | ht
  · obtain ⟨y, hy, hjob⟩ := ho.chief
    obtain rfl : x = y := Option.some.inj (hx.symm.trans hy)
    rw [hjob] at hhelp
    cases hhelp
  · obtain ⟨link, index, hjob⟩ := hk.branches t x hx ht
    rw [hjob] at hhelp
    cases hhelp

theorem alone (hsteps : Step.allSimple steps = true) (hk : Crawling S n here steps h c g) (ho : InOrder b V F (h₀ ++ h) c g)
    (hx : c.members[t]? = some x) (ht : n ≤ t) : ∀ d ∈ deedsOf h t, ¬ IsShared d := by
  obtain ⟨link, index, hjob⟩ := hk.branches t x hx ht
  have hpath := (ho.fits t x hx).path
  rw [hjob] at hpath
  intro d hd
  refine (alone_branch link index hsteps).path hpath d ?_
  rw [deedsOf_append]
  exact List.mem_append_right _ hd

/-- What a task does is served by habits. -/
theorem serves (hk : Crawling S n here steps h c g) (hf : Follows b V F w₀ (h₀ ++ h) c g) (hopens : b.Opens V w₀)
    (hh : ∀ e ∈ h₀ ++ h, Event.IsCalm e) (hx : c.members[t]? = some x) (hs : Crew.Step m IsOutside c (.act t d) c')
    (hnext : Next (F t) x.job (g t) d s') (hcalm : Event.IsCalm (.act t d)) (hsmooth : Event.IsSmooth (.act t d)) :
    (∀ k, g t = .working k → Serves B (S.place c.world k.page) d (S.place c'.world k.page)) ∧
      ((∀ k, g t ≠ .working k) → ∀ u, Serves B u d u) := by
  have ho := hf.inOrder
  have ht := Crew.lt_of_member hx
  have hstep := hs
  cases hs with
  | act hx' hgoes hd ha =>
    obtain rfl := Option.some.inj (hx.symm.trans hx')
    have hnobody := hk.helps_nobody ho hx hgoes
    have hhelp : ∀ p, g t ≠ .helping p := by
      intro p hp
      have hfits := ho.fits t x hx
      rw [hp] at hfits
      exact hnobody p hfits.isHelp
    have htold : x.isTold = false := by
      cases htold : x.isTold with
      | false => rfl
      | true =>
        obtain ⟨⟨p, hhelp⟩, -⟩ := (hf.calm hh).told t x hx htold
        exact absurd hhelp (hnobody p)
    rw [htold] at ha
    have hmeets : ∀ {u}, (∀ k, g t = .working k → u = S.place c.world k.page) → B.Foresees u d → B.Meets u d :=
      fun hu => S.meets ho (hf.unrefused hopens) hk.holds ht hnext ha hcalm hsmooth hhelp hu
    constructor
    · intro k hw hforeseen
      exact ⟨S.leads_on ho hk.holds ht hw hstep hnext hforeseen, hmeets (by rintro k' hw'; cases hw.symm.trans hw'; rfl) hforeseen⟩
    · intro hidle u hforeseen
      refine ⟨(after_of_not_moves B u ?_).symm, hmeets (fun k hw => absurd hw (hidle k)) hforeseen⟩
      rintro p q a rfl hmoves
      rcases hnext.moves hmoves with ⟨k, hw, -⟩ | hhelping
      · exact hidle k hw
      · exact hhelp p hhelping

/-- Whoever joins is a branch. -/
theorem joins (hsteps : Step.allSimple steps = true) (hk : Crawling S n here steps h c g)
    (ho' : InOrder b V F (h₀ ++ h ++ [e]) c' g') (hs : Crew.Step m IsOutside c e c')
    (hstarts : ∀ job u, e = .act 0 (.start job u) → ∃ link index, job = .branch link index steps) {u : TaskId}
    (he : e = .act t (.start job u)) : ∃ link index, job = .branch link index steps := by
  subst he
  have hstep := hs
  cases hs with
  | act hx hgoes hd ha =>
    rcases hk.cast t _ hx hgoes with rfl | ht
    · exact hstarts job u rfl
    · -- a branch starts nobody
      obtain ⟨y, hy, hjob⟩ := hstep.job hx
      obtain ⟨link, index, hbranch⟩ := hk.branches t _ hx ht
      have hpath := (ho'.fits t y hy).path
      rw [hjob, hbranch] at hpath
      refine absurd trivial ((alone_branch link index hsteps).path hpath (.start job u) ?_)
      exact mem_deedsOf.2 (List.mem_append_right _ (List.mem_singleton_self _))

/-- In every event the crawl goes on. -/
theorem step (hsteps : Step.allSimple steps = true) (hk : Crawling S n here steps h c g)
    (hf : Follows b V F w₀ (h₀ ++ h) c g) (hopens : b.Opens V w₀) (hh : ∀ e ∈ h₀ ++ h, Event.IsCalm e)
    (hs : Crew.Step m IsOutside c e c') (hg : Moves F c g e g') (ho' : InOrder b V F (h₀ ++ h ++ [e]) c' g')
    (hcalm : Event.IsCalm e) (hsmooth : Event.IsSmooth e)
    (hstarts : ∀ job u, e = .act 0 (.start job u) → ∃ link index, job = .branch link index steps) :
    Crawling S n here steps (h ++ [e]) c' g' := by
  have ho := hf.inOrder
  -- nobody else moves the page of who works
  have hplace : ∀ {t}, t < c.members.length → (∀ d, e ≠ .act t d) → ∀ k, g t = .working k →
      S.place c'.world k.page = S.place c.world k.page := fun ht he k hw =>
    S.place_step hs hk.holds (ho.undisturbed hs hg (fun v y p hy hgoes => hk.helps_nobody ho hy hgoes p) ht hw he)
  constructor
  case grown => exact Nat.le_trans hk.grown hs.length_le
  case holds => exact S.holds_step hs hk.holds
  case cast =>
    intro t y hy hgoes
    rcases hs.member hy with ⟨x, hx, hcont⟩ | ⟨_, _, -, hlen, -⟩
    · exact hk.cast t x hx (hcont.goes hgoes)
    · exact .inr (hlen ▸ hk.grown)
  case acts =>
    intro t d hd
    rcases List.mem_append.1 hd with hd | hd
    · exact hk.acts t d hd
    · cases List.mem_singleton.1 hd
      cases hs with
      | act hx hgoes => exact hk.cast t _ hx hgoes
  case branches =>
    intro t y hy ht
    rcases hs.member hy with ⟨x, hx, hcont⟩ | ⟨u, job, he, -, rfl⟩
    · exact hcont.job ▸ hk.branches t x hx ht
    · exact hk.joins hsteps ho' hs hstarts he
  case chief =>
    intro k' hw'
    obtain ⟨k, hw, -, hhome⟩ := ho.home
    obtain ⟨k₀, hw₀, -, hhome'⟩ := ho'.home
    cases hw'.symm.trans hw₀
    have hlong := hk.chief k hw
    rw [hhome'.trans hhome.symm]
    obtain ⟨x, hx, -⟩ := ho.chief
    rcases hg.stage hs 0 with ⟨-, hidle⟩ | ⟨y, d, rfl, hy, hnext⟩ | ⟨_, _, -, hlen, -⟩
    · rw [deedsOf_idle hidle, hplace (Crew.lt_of_member hx) hidle k hw]
      exact hlong
    · rw [deedsOf_act]
      exact hlong.snoc ((hk.serves hf hopens hh hy hs hnext hcalm hsmooth).1 k hw)
    · exact absurd (hlen ▸ Crew.lt_of_member hx) (Nat.lt_irrefl _)
  case tracked =>
    intro t ht hn
    rcases hs.member (List.getElem?_eq_getElem ht) with ⟨x, hx, -⟩ | ⟨u, job, rfl, hlen, -⟩
    · have hlt := Crew.lt_of_member hx
      rcases hg.stage hs t with ⟨heq, hidle⟩ | ⟨y, d, rfl, hy, hnext⟩ | ⟨_, _, -, hlen, -⟩
      · rw [deedsOf_idle hidle, heq]
        exact (hk.tracked t hlt hn).idle (hplace hlt hidle)
      · rw [deedsOf_act]
        obtain ⟨hworks, hidles⟩ := hk.serves hf hopens hh hy hs hnext hcalm hsmooth
        exact (hk.tracked t hlt hn).next hnext hworks hidles
      · exact absurd (hlen ▸ hlt) (Nat.lt_irrefl _)
    · obtain ⟨link, index, rfl⟩ := hk.joins hsteps ho' hs hstarts rfl
      have hnone : deedsOf (h ++ [.act u (.start (.branch link index steps) t)]) t = [] := by
        have hlater := ho.later t (Nat.le_of_eq hlen.symm)
        rw [deedsOf_append, List.append_eq_nil_iff] at hlater
        rw [deedsOf_idle, hlater.2]
        rintro d ⟨⟩
        exact absurd hs.started_last.2.1 (Nat.lt_irrefl _)
      rw [hnone]
      cases hg with
      | idle hidle => exact absurd rfl (hidle _ _)
      | act =>
        rw [enroll, Function.update_self]
        exact .first rfl

/-- A crawl goes on as long as its first task starts nobody but its branches. -/
theorem of_reaches (hsteps : Step.allSimple steps = true) {g₀ : Stages} {c₀ : Crew scene W}
    (hf : Follows b V F w₀ h₀ c₀ g₀) (hopens : b.Opens V w₀) (hk : Crawling S n here steps [] c₀ g₀)
    (hr : Crew.Reaches m IsOutside c₀ h c) (hF : Findings.CoverAll F h) (hh : ∀ e ∈ h₀ ++ h, Event.IsCalm e)
    (hsmooth : ∀ e ∈ h, Event.IsSmooth e)
    (hstarts : ∀ job u, .start job u ∈ deedsOf h 0 → ∃ link index, job = .branch link index steps) :
    ∃ g, Follows b V F w₀ (h₀ ++ h) c g ∧ Crawling S n here steps h c g := by
  induction hr with
  | refl => exact ⟨g₀, (List.append_nil h₀).symm ▸ hf, hk⟩
  | @step h d e d' hd hs ih =>
    obtain ⟨g, hg, hgoes⟩ := ih (fun t d hin => hF t d (List.mem_append_left _ hin))
      (fun e he => hh e (by rw [← List.append_assoc]; exact List.mem_append_left _ he))
      (fun e he => hsmooth e (List.mem_append_left _ he)) fun job u hin => hstarts job u (by
        rw [deedsOf_append]; exact List.mem_append_left _ hin)
    obtain ⟨g', hmoves, ho'⟩ := hg.inOrder.step hs fun t d he =>
      hF t d (List.mem_append_right _ (by simp [he]))
    refine ⟨g', by rw [← List.append_assoc]; exact .snoc hg hs hmoves ho', ?_⟩
    refine hgoes.step hsteps hg hopens ?_ hs hmoves ho' ?_ ?_ ?_
    · exact fun e he => hh e (by rw [← List.append_assoc]; exact List.mem_append_left _ he)
    · exact hh e (by simp)
    · exact hsmooth e (by simp)
    · rintro job u rfl
      exact hstarts job u (by simp [deedsOf, Event.deedOf?])

end Crawling

end BrowserPlan.Run
