import BrowserPlan.Proofs.Run.Company

/-!
# Who was started by whom

Helpers belong to the task that started them for as long as it waits for them, and branches to the
first task. `Kin` says that what a task keeps of its helpers and branches is true of them, and that no
branch that goes on is forgotten.
-/
namespace BrowserPlan.Run

open BrowserPlan.Task BrowserPlan.Browser

variable {W : Type} {m : Machine scene W} {V : Venue m} {b : Brief}

/-- The job of a branch. -/
def Job.IsBranch : Job → Prop
  | .branch .. => True
  | _ => False

theorem IsHelp.not_branch {p : PageId} {job : Job} (h : IsHelp p job) : ¬ job.IsBranch := by
  cases h <;> exact id

/-! ## Helpers and branches in single steps -/

section
variable {F : Findings} {job job' : Job} {s s' : Stage} {d : Deed scene} {w' : Work} {u : TaskId}

/-- What a step of work does to the helpers: no more of them are started when they have been told to
give up. -/
theorem Next.helpers (h : Next F job s d (.working w')) : w'.helpers = [] ∨
    ∃ w, s = .working w ∧ w'.page = w.page ∧
      (w'.helpers = w.helpers ∧ (w.isStopping = true → w'.isStopping = true) ∨
        ∃ help u, d = .start help u ∧ IsHelp w.page help ∧ w.isStopping = false ∧
          w'.helpers = w.helpers ++ [u]) := by
  generalize hs : Stage.working w' = s' at h
  cases h with
  | deal h => exact absurd hs.symm (h.not_working.1 w')
  | enter => cases hs; exact .inl rfl
  | aside | quiet | executed =>
    cases hs
    exact .inr ⟨_, rfl, rfl, .inl ⟨rfl, id⟩⟩
  | share h =>
    cases hs
    cases h with
    | engage u hs h => exact .inr ⟨_, rfl, rfl, .inr ⟨_, u, rfl, h, hs, rfl⟩⟩
    | gathered => exact .inl rfl
    | upset | abandoned => exact .inr ⟨_, rfl, rfl, .inl ⟨rfl, fun _ => rfl⟩⟩
    | _ => exact .inr ⟨_, rfl, rfl, .inl ⟨rfl, id⟩⟩
  | _ => cases hs

/-- Helpers are forgotten only when they were waited for. -/
theorem Next.forgets (h : Next F job (.working w') d s) (hu : u ∈ w'.helpers) :
    (∃ w, s = .working w ∧ u ∈ w.helpers) ∨
      ∃ patient r, d = .meet w'.helpers patient r ∧ (patient = true ∨ ∃ a, r = .ok a) := by
  cases h with
  | deal h =>
    cases h with
    | release a hl hh =>
      rw [hh] at hu
      cases hu
  | share h =>
    cases h with
    | gathered h => exact .inr ⟨_, _, rfl, h⟩
    | engage => exact .inl ⟨_, rfl, List.mem_append_left _ hu⟩
    | _ => exact .inl ⟨_, rfl, hu⟩
  | _ => exact .inl ⟨_, rfl, hu⟩

/-- What a step of work does to the branches. -/
theorem Next.branches (h : Next F job s d (.working w')) : w'.branches = [] ∧ s = .lent w'.page ∨
    ∃ w, s = .working w ∧ (w'.branches = w.branches ∨
      (∃ link index list u, d = .start (.branch link index list) u ∧
        w'.branches = w.branches ++ [u]) ∨
      ∃ a, d = .meet w.branches false (.ok a) ∧ w'.branches = []) := by
  generalize hs : Stage.working w' = s' at h
  cases h with
  | deal h => exact absurd hs.symm (h.not_working.1 w')
  | enter => cases hs; exact .inl ⟨rfl, rfl⟩
  | aside | quiet | executed =>
    cases hs
    exact .inr ⟨_, rfl, .inl rfl⟩
  | share h =>
    cases hs
    cases h with
    | dispatch => exact .inr ⟨_, rfl, .inr (.inl ⟨_, _, _, _, rfl, rfl⟩)⟩
    | reunited => exact .inr ⟨_, rfl, .inr (.inr ⟨_, rfl, rfl⟩)⟩
    | _ => exact .inr ⟨_, rfl, .inl rfl⟩
  | _ => cases hs

theorem Next.engages {p : PageId} (h : Next F job s (.start job' u) s') (hjob : IsHelp p job') :
    ∃ w, s = .working w ∧ s' = .working { w with helpers := w.helpers ++ [u] } := by
  obtain ⟨w, w', rfl, rfl, hshares⟩ := h.shares trivial
  cases hshares with
  | engage => exact ⟨w, rfl, rfl⟩
  | dispatch => cases hjob

theorem Next.dismisses (h : Next F job s (.stop u) s') :
    ∃ w, s = .working w ∧ u ∈ w.helpers ∧ w.isStopping = true := by
  obtain ⟨w, w', rfl, rfl, hshares⟩ := h.shares trivial
  cases hshares with
  | dismiss hu hs => exact ⟨_, rfl, hu, hs⟩

theorem Next.dispatches (h : Next F job s (.start job' u) s') (hjob : job'.IsBranch) :
    ∃ w, s = .working w ∧ w.leads = true ∧ s' = .working { w with branches := w.branches ++ [u] } := by
  obtain ⟨w, w', rfl, rfl, hshares⟩ := h.shares trivial
  cases hshares with
  | engage u hs hhelp => exact absurd hjob hhelp.not_branch
  | dispatch u hl => exact ⟨_, rfl, hl, rfl⟩

/-- Who waits for tasks waits for its helpers or its branches, and if it is told of a failure, for
helpers that it has not told to give up. -/
theorem Next.meets {ts : List TaskId} {patient : Bool} {r : Outcome Fault Unit}
    (h : Next F job s (.meet ts patient r) s') : ∃ w, s = .working w ∧
      (ts = w.helpers ∧ w.branches = [] ∧
          (w.isStopping = false ∨ patient = true ∨ ∃ a, r = .ok a) ∨
        w.leads = true ∧ ts = w.branches) := by
  obtain ⟨w, w', rfl, rfl, hshares⟩ := h.shares trivial
  cases hshares with
  | gathered hall hb => exact ⟨w, rfl, .inl ⟨rfl, hb, .inr hall⟩⟩
  | upset e hs hb => exact ⟨w, rfl, .inl ⟨rfl, hb, .inl hs⟩⟩
  | reunited a hl | abandoned e hl => exact ⟨w, rfl, .inr ⟨hl, rfl⟩⟩

theorem Next.not_learns {r : Outcome Fault Yield} : ¬ Next F job s (.learn u r) s' := by
  intro h
  obtain ⟨w, w', -, -, hshares⟩ := h.shares trivial
  cases hshares

theorem Next.wakes {σ : Signal} {r : Outcome Fault Unit} (h : Next F job s (.wake (.signal σ) r) s') :
    ∃ k, σ = .granted k ∧ s = .drawn k := by
  rcases h.spares with hd | ⟨hd, -⟩
  · cases hd <;> exact ⟨_, rfl, rfl⟩
  · exact hd.elim

/-- Who waits for a task works, and waits for its helpers or its branches. -/
theorem Fits.waits {h : List (Event scene)} {t : TaskId} {x : Member scene} (hx : Fits F h t x s) (hr : x.result = none) (hw : x.rest.WaitsFor u) :
    ∃ w, s = .working w ∧ (u ∈ w.helpers ∨ w.leads = true ∧ u ∈ w.branches) := by
  have hobeys := hx.obeys hr
  generalize x.rest = rest at hobeys hw
  cases hw with
  | await next =>
    obtain ⟨s', hnext, -⟩ := hobeys.does (.learn u next (.ok .nothing)) trivial
    exact absurd hnext Next.not_learns
  | gather patient next hu =>
    obtain ⟨s', hnext, -⟩ := hobeys.does (.meet _ patient next (.ok ())) trivial
    obtain ⟨w, hs, ⟨rfl, -⟩ | ⟨hl, rfl⟩⟩ := hnext.meets
    · exact ⟨w, hs, .inl hu⟩
    · exact ⟨w, hs, .inr ⟨hl, hu⟩⟩

theorem Fits.helping {h : List (Event scene)} {t : TaskId} {x : Member scene} {p : PageId}
    (hx : Fits F h t x s) (hjob : IsHelp p x.job) : s = .helping p := by
  have hsuits := hx.suits
  cases hj : x.job with
  | wait | click =>
    rw [hj] at hsuits hjob
    cases hjob
    exact hsuits
  | _ => rw [hj] at hjob; cases hjob

end

/-! ## Stages in single events -/

section
variable {F : TaskId → Findings} {h : List (Event scene)} {c c' : Crew scene W} {g g' : Stages}
  {e : Event scene} {t u : TaskId} {x : Member scene} {w : Work} {w₀ : W}

/-- What becomes of the stage of one task. -/
theorem Moves.stage (hg : Moves F c g e g') (hs : Crew.Step m IsOutside c e c') (t : TaskId) :
    g' t = g t ∧ (∀ d, e ≠ .act t d) ∨
    (∃ x d, e = .act t d ∧ c.members[t]? = some x ∧ Next (F t) x.job (g t) d (g' t)) ∨
    ∃ u job, e = .act u (.start job t) ∧ t = c.members.length ∧ g' t = .first job := by
  cases hg with
  | idle he => exact .inl ⟨rfl, he t⟩
  | @act a x d s hx hnext =>
    cases hs with
    | act hx' hr hp ha =>
      have hlt := Crew.lt_of_member hx
      by_cases hta : t = a
      · subst hta
        refine .inr (.inl ⟨x, d, rfl, hx, ?_⟩)
        rw [enroll_of_lt ha hlt, Function.update_self]
        exact hnext
      · have hne : ∀ d', Event.act a d ≠ .act t d' := by
          rintro d' ⟨⟩
          exact hta rfl
        cases d with
        | start job v =>
          by_cases htv : t = v
          · subst htv
            exact .inr (.inr ⟨a, job, rfl, ha.started.1, Function.update_self ..⟩)
          · refine .inl ⟨?_, hne⟩
            rw [enroll, Function.update_of_ne htv, Function.update_of_ne hta]
        | _ => exact .inl ⟨Function.update_of_ne hta .., hne⟩

theorem InOrder.home (ho : InOrder b V F h c g) :
    ∃ w, g 0 = .working w ∧ w.leads = true ∧ w.page = b.home := by
  obtain ⟨x, hx, hjob⟩ := ho.chief
  have hsuits := (ho.fits 0 x hx).suits
  rw [hjob] at hsuits
  exact hsuits

/-- Nobody else leads. -/
theorem InOrder.leader (ho : InOrder b V F h c g) (hx : c.members[t]? = some x)
    (hw : g t = .working w) (hl : w.leads = true) : t = 0 := by
  by_contra ht
  have hsuits := (ho.fits t x hx).suits
  have hpart := (ho.fits t x hx).part
  have hother := ho.others t x hx ht
  rw [hw] at hsuits
  cases hjob : x.job with
  | steps page list index => exact hother page list index hjob
  | branch link index list =>
    rw [hjob] at hsuits
    rw [hsuits.1 w rfl] at hl
    cases hl
  | wait | click =>
    rw [hjob] at hsuits
    cases hsuits
  | _ =>
    rw [hjob] at hpart
    exact hpart

/-! ## The invariant -/

/-- A task that was started by another one. -/
def StartedBy (h : List (Event scene)) (t u : TaskId) : Prop := ∃ job, .act t (.start job u) ∈ h

/-- What tasks keep of their helpers and branches is true. -/
structure Kin (h : List (Event scene)) (c : Crew scene W) (g : Stages) : Prop where
  helpers : ∀ t w, g t = .working w → ∀ u ∈ w.helpers, StartedBy h t u ∧
    ∃ y, c.members[u]? = some y ∧ IsHelp w.page y.job
  branches : ∀ t w, g t = .working w → ∀ u ∈ w.branches,
    ∃ y, c.members[u]? = some y ∧ y.job.IsBranch
  /-- Branches that go on are in the list of the first task. -/
  listed : ∀ u y, c.members[u]? = some y → y.job.IsBranch → y.result = none →
    ∃ w, g 0 = .working w ∧ u ∈ w.branches

theorem StartedBy.snoc (hu : StartedBy h t u) (e : Event scene) : StartedBy (h ++ [e]) t u :=
  hu.imp fun _ hin => List.mem_append_left _ hin

theorem helpers_first (job : Job) (hw : Stage.first job = .working w) :
    w.helpers = [] ∧ w.branches = [] := by
  cases job <;> cases hw
  exact ⟨rfl, rfl⟩

theorem ended_of_meet {ts : List TaskId} {a : Unit} {isTold : Bool}
    (ha : Crew.Allows m c isTold (.meet ts false (.ok a)) c') :
    ∀ t ∈ ts, ∃ v, c.result? t = some (.ok v) := by
  cases ha with
  | wait ho =>
    cases ho with
    | good hall => exact hall
  | late htold ho hd => cases ho <;> cases hd

theorem exists_job {P : Job → Prop} {u : TaskId} (hs : Crew.Step m IsOutside c e c')
    (h : ∃ y, c.members[u]? = some y ∧ P y.job) : ∃ y, c'.members[u]? = some y ∧ P y.job := by
  obtain ⟨y, hy, hP⟩ := h
  obtain ⟨y', hy', hjob⟩ := hs.job hy
  exact ⟨y', hy', hjob.symm ▸ hP⟩

section
variable (hk : Kin h c g) (hs : Crew.Step m IsOutside c e c') (hg : Moves F c g e g')
include hk hs hg

/-- The helpers of a task have been started by it. -/
theorem Kin.helpers_step : ∀ t w, g' t = .working w → ∀ u ∈ w.helpers, StartedBy (h ++ [e]) t u ∧
    ∃ y, c'.members[u]? = some y ∧ IsHelp w.page y.job := by
  intro t w hw u hu
  rcases hg.stage hs t with ⟨heq, -⟩ | ⟨x, d, rfl, hx, hnext⟩ | ⟨v, job, rfl, -, hfirst⟩
  · obtain ⟨hstart, hjob⟩ := hk.helpers t w (heq ▸ hw) u hu
    exact ⟨hstart.snoc e, exists_job hs hjob⟩
  · rw [hw] at hnext
    rcases hnext.helpers with hnil | ⟨w₀, hw₀, hpage, hrest⟩
    · rw [hnil] at hu
      cases hu
    · rw [hpage]
      have hold : u ∈ w₀.helpers → _ := fun hu =>
        (hk.helpers t w₀ hw₀ u hu).imp (fun hst => hst.snoc (.act t d)) (exists_job hs)
      rcases hrest with ⟨hsame, -⟩ | ⟨help, v, rfl, hhelp, -, hmore⟩
      · exact hold (hsame ▸ hu)
      · rw [hmore, List.mem_append, List.mem_singleton] at hu
        rcases hu with hu | rfl
        · exact hold hu
        · exact ⟨⟨help, List.mem_append_right _ (List.mem_singleton_self _)⟩, _, hs.started, hhelp⟩
  · obtain ⟨hnil, -⟩ := helpers_first job (hfirst.symm.trans hw)
    rw [hnil] at hu
    cases hu

/-- The branches of a task are there. -/
theorem Kin.branches_step : ∀ t w, g' t = .working w → ∀ u ∈ w.branches,
    ∃ y, c'.members[u]? = some y ∧ y.job.IsBranch := by
  intro t w hw u hu
  rcases hg.stage hs t with ⟨heq, -⟩ | ⟨x, d, rfl, hx, hnext⟩ | ⟨v, job, rfl, -, hfirst⟩
  · exact exists_job hs (hk.branches t w (heq ▸ hw) u hu)
  · rw [hw] at hnext
    rcases hnext.branches with ⟨hnil, -⟩ | ⟨w₀, hw₀, hsame | ⟨link, index, list, v, rfl, hmore⟩ |
      ⟨a, rfl, hnil⟩⟩
    · rw [hnil] at hu
      cases hu
    · exact exists_job hs (hk.branches t w₀ hw₀ u (hsame ▸ hu))
    · rw [hmore, List.mem_append, List.mem_singleton] at hu
      rcases hu with hu | rfl
      · exact exists_job hs (hk.branches t w₀ hw₀ u hu)
      · exact ⟨_, hs.started, trivial⟩
    · rw [hnil] at hu
      cases hu
  · obtain ⟨-, hnil⟩ := helpers_first job (hfirst.symm.trans hw)
    rw [hnil] at hu
    cases hu

/-- A branch that goes on is one of those that the first task waits for. -/
theorem Kin.listed_step (ho : InOrder b V F h c g) (ho' : InOrder b V F (h ++ [e]) c' g') : ∀ u y,
    c'.members[u]? = some y → y.job.IsBranch → y.result = none → ∃ w, g' 0 = .working w ∧ u ∈ w.branches := by
  intro u y hy hbranch hgoes
  rcases hs.member hy with ⟨x, hx, hcont⟩ | ⟨t, job, rfl, hlen, rfl⟩
  · obtain ⟨w, hw, hu⟩ := hk.listed u x hx (hcont.job ▸ hbranch) (hcont.goes hgoes)
    rcases hg.stage hs 0 with ⟨heq, -⟩ | ⟨x₀, d, rfl, hx₀, hnext⟩ | ⟨v, job, -, hzero, -⟩
    · exact ⟨w, heq.trans hw, hu⟩
    · obtain ⟨w', hw', -⟩ := ho'.home
      rw [hw', hw] at hnext
      rcases hnext.branches with ⟨-, hlent⟩ | ⟨w₀, hw₀, hsame | ⟨_, _, _, v, -, hmore⟩ |
        ⟨a, rfl, hnil⟩⟩
      · cases hlent
      · cases hw₀
        exact ⟨w', hw', hsame.symm ▸ hu⟩
      · cases hw₀
        exact ⟨w', hw', hmore.symm ▸ List.mem_append_left _ hu⟩
      · cases hw₀
        cases hs with
        | act _ _ _ ha =>
          obtain ⟨v, hv⟩ := ended_of_meet ha u hu
          rw [Crew.result?, hx, Option.bind_some, hcont.goes hgoes] at hv
          cases hv
    · obtain ⟨x₀, hx₀, -⟩ := ho.chief
      exact absurd (hzero ▸ Crew.lt_of_member hx₀) (Nat.lt_irrefl _)
  · rcases hg.stage hs t with ⟨-, hne⟩ | ⟨x, d, he, hx, hnext⟩ | ⟨v, job', he, hself, -⟩
    · exact absurd rfl (hne _)
    · cases he
      obtain ⟨w, hw, hleads, hw'⟩ := hnext.dispatches hbranch
      obtain rfl := ho.leader hx hw hleads
      exact ⟨_, hw', List.mem_append_right _ (List.mem_singleton_self u)⟩
    · cases he
      cases hs with
      | act hx => exact absurd (hself ▸ Crew.lt_of_member hx) (Nat.lt_irrefl _)

end

theorem Kin.step (hk : Kin h c g) (ho : InOrder b V F h c g) (hs : Crew.Step m IsOutside c e c')
    (hg : Moves F c g e g') (ho' : InOrder b V F (h ++ [e]) c' g') : Kin (h ++ [e]) c' g' where
  helpers := hk.helpers_step hs hg
  branches := hk.branches_step hs hg
  listed := hk.listed_step hs hg ho ho'

theorem kin_first : Kin [] (Crew.single m w₀ b.job) fun _ => .first b.job where
  helpers := by
    rintro t w ⟨⟩ u hu
    cases hu
  branches := by
    rintro t w ⟨⟩ u hu
    cases hu
  listed := by
    intro u y hy hbranch
    obtain ⟨hlen, rfl⟩ := List.getElem?_eq_some_iff.1 hy
    obtain rfl : u = 0 := Nat.lt_one_iff.1 hlen
    exact hbranch.elim

theorem Follows.kin (hf : Follows b V F w₀ h c g) : Kin h c g := by
  induction hf with
  | nil => exact kin_first
  | snoc hc hs hg ho ih => exact ih.step hc.inOrder hs hg ho

end

end BrowserPlan.Run
