import BrowserPlan.Proofs.Run.Failures
import BrowserPlan.Proofs.Run.Sharing
import Mathlib.Data.List.Induction

/-!
# Failures stay in their branches

The report of a run lists the actions that its tasks have begun and the failures that they have noted,
in the order in which this happened (`reported`). What a crawl adds to it is an interleaving of what its
branches add, each in its own order; a branch that fails adds one failure, and nobody else is harmed
(`crawl_isolates_failures`).
-/
namespace BrowserPlan.Run

open BrowserPlan.Task BrowserPlan.Browser

/-! ## Interleavings -/

/-- The list is made of the lists `parts i`, each in its order, and of nothing else. -/
def Interleaves {ι α : Type} [DecidableEq ι] (parts : ι → List α) (l : List α) : Prop :=
  ∃ tagged : List (ι × α), tagged.map Prod.snd = l ∧
    ∀ i, (tagged.filter fun x => x.1 = i).map Prod.snd = parts i

/-- What the tasks leave behind in a history, in its order. -/
def entries {α : Type} (f : Deed scene → Option α) (h : List (Event scene)) : List (TaskId × α) :=
  h.filterMap fun
    | .act t d => (f d).map (t, ·)
    | _ => none

section
variable {α : Type} {f : Deed scene → Option α} {h h' : List (Event scene)} {t : TaskId}

theorem entries_append : entries f (h ++ h') = entries f h ++ entries f h' := List.filterMap_append

theorem entries_act (t : TaskId) (d : Deed scene) : entries f [.act t d] = (f d).toList.map (t, ·) := by
  cases hd : f d <;> simp [entries, hd]

theorem entries_act_snd (f : Deed scene → Option α) (t : TaskId) (d : Deed scene) :
    (entries f [.act t d]).map Prod.snd = (f d).toList := by
  rw [entries_act, List.map_map]
  exact List.map_id _

theorem entries_skip {d : Deed scene} (hd : f d = none) :
    entries f (h ++ [.act t d]) = entries f h := by
  rw [entries_append, entries_act, hd, Option.toList_none, List.map_nil, List.append_nil]

theorem entries_of (f : Deed scene → Option α) (h : List (Event scene)) (t : TaskId) :
    ((entries f h).filter fun x => x.1 = t).map Prod.snd = (deedsOf h t).filterMap f := by
  induction h with
  | nil => rfl
  | cons e h ih =>
    rw [← List.singleton_append, entries_append, deedsOf_append, List.filter_append, List.map_append, ih,
      List.filterMap_append]
    congr 1
    cases e with
    | act u d =>
      rw [entries_act, deedsOf, List.filterMap_cons, List.filterMap_nil, Event.deedOf?]
      by_cases hut : u = t <;> cases hd : f d <;> simp [hut, hd]
    | _ => rfl

theorem interleaves_entries (f : Deed scene → Option α) (h : List (Event scene)) :
    Interleaves (fun t => (deedsOf h t).filterMap f) ((entries f h).map Prod.snd) :=
  ⟨entries f h, rfl, entries_of f h⟩

end

variable {W : Type} {m : Machine scene W} {V : Venue m} {b : Brief} {F : TaskId → Findings}
  {h : List (Event scene)} {c c' : Crew scene W} {g g' : Stages} {e : Event scene} {t u : TaskId}
  {w : W}

/-! ## The report -/

/-- The report `r'` is `r` with these actions and failures added. -/
def Report.Adds (r : Report) (executed : List Action) (failures : List BranchFailure) (r' : Report) :
    Prop :=
  r'.executed.toList = r.executed.toList ++ executed ∧
    r'.failures.toList = r.failures.toList ++ failures

theorem Report.adds_nothing (r : Report) : r.Adds [] [] r :=
  ⟨(List.append_nil _).symm, (List.append_nil _).symm⟩

theorem Report.Adds.trans {r r' r'' : Report} {as as' : List Action} {fs fs' : List BranchFailure}
    (h : r.Adds as fs r') (h' : r'.Adds as' fs' r'') : r.Adds (as ++ as') (fs ++ fs') r'' :=
  ⟨by rw [h'.1, h.1, List.append_assoc], by rw [h'.2, h.2, List.append_assoc]⟩

/-- What a step adds to the report. -/
theorem report_allows (V : Venue m) {isTold : Bool} {d : Deed scene}
    (ha : Crew.Allows m c isTold d c') : (V.report c.world).Adds (Deed.executed? d).toList
      (Deed.failure? d).toList (V.report c'.world) := by
  cases ha with
  | @ask q a now ha =>
    change Report.Adds _ _ _ (V.report (m.perform now c.world q).1)
    rw [V.reported now c.world q]
    cases q with
    | executed | branchFailed => constructor <;> simp [Report.noting, Deed.executed?, Deed.failure?]
    | _ => exact Report.adds_nothing _
  | start | stop => exact Report.adds_nothing _
  | wait ho => cases ho <;> exact Report.adds_nothing _
  | late htold ho heq => cases ho <;> cases heq <;> exact Report.adds_nothing _
  | breakOff on htold =>
    cases on with
    | signal s =>
      change Report.Adds _ [] [] (V.report (m.forsake c.world s))
      rw [V.report_forsaken]
      exact Report.adds_nothing _
    | timer | forever => exact Report.adds_nothing _

/-- The report is what was reported before and what the tasks have added since. -/
theorem reported (V : Venue m) (hr : Crew.Reaches m IsOutside c h c') :
    (V.report c.world).Adds ((entries Deed.executed? h).map Prod.snd)
      ((entries Deed.failure? h).map Prod.snd) (V.report c'.world) := by
  induction hr with
  | refl => exact Report.adds_nothing _
  | @step h d e d' hd hs ih =>
    rw [entries_append, entries_append, List.map_append, List.map_append]
    refine ih.trans ?_
    cases hs with
    | act hx hr hp ha =>
      have hadds := report_allows V ha
      rwa [← entries_act_snd, ← entries_act_snd] at hadds
    | happen now q hq =>
      obtain rfl := hq
      change Report.Adds _ [] [] (V.report (m.perform now d.world .goAway).1)
      rw [V.reported]
      exact Report.adds_nothing _
    | _ => exact Report.adds_nothing _

/-! ## Who adds to the report -/

theorem Along.helping {F : Findings} {job : Job} {p : PageId} {ds : List (Deed scene)} {s' : Stage}
    (h : Along (Next F job) (.helping p) ds s') : s' = .helping p ∧
      ∀ d ∈ ds, Deed.executed? d = none ∧ Deed.failure? d = none := by
  induction h with
  | nil => exact ⟨rfl, fun _ hd => absurd hd List.not_mem_nil⟩
  | snoc h hnext ih =>
    obtain ⟨rfl, hnone⟩ := ih
    have hquiet : ∀ {d s'}, Next F job (.helping p) d s' → s' = .helping p ∧ IsQuiet F p d := by
      intro d s' hnext
      cases hnext with
      | aside h => exact ⟨rfl, .aside h⟩
      | help h => exact ⟨rfl, h⟩
      | deal h => cases h
    obtain ⟨rfl, hd⟩ := hquiet hnext
    refine ⟨rfl, fun d' hd' => ?_⟩
    rcases List.mem_append.1 hd' with hd' | hd'
    · exact hnone d' hd'
    · rw [List.mem_singleton.1 hd']
      exact ⟨hd.executed?, hd.failure?⟩

theorem InOrder.adds_nothing (ho : InOrder b V F h c g) {x : Member scene}
    (hx : c.members[t]? = some x) (ht : t ≠ 0) (hjob : ¬ x.job.IsBranch) :
    ∀ d ∈ deedsOf h t, Deed.executed? d = none ∧ Deed.failure? d = none := by
  have hfits := ho.fits t x hx
  have hpart := hfits.part
  have halong := hfits.along
  have hother := ho.others t x hx ht
  cases hj : x.job with
  | steps page list index => exact absurd hj (hother page list index)
  | branch => exact absurd (hj ▸ trivial) hjob
  | wait | click =>
    rw [hj] at halong
    exact (Along.helping halong).2
  | _ =>
    rw [hj] at hpart
    exact hpart.elim

theorem Follows.dispatched (hf : Follows b V F w h c g) {job : Job}
    (hd : .act u (.start job t) ∈ h) (hjob : job.IsBranch) : u = 0 := by
  induction hf with
  | nil => cases hd
  | snoc hc hs hg ho ih =>
    rcases List.mem_append.1 hd with hd | hd
    · exact ih hd
    · cases List.mem_singleton.1 hd
      cases hg with
      | idle he => exact absurd rfl (he _ _)
      | act hx hnext =>
        obtain ⟨w, hw, hleads, -⟩ := hnext.dispatches hjob
        exact hc.inOrder.leader hx hw hleads

/-! ## A crawl -/

/-- A branch that a crawl has started. -/
structure Branching where
  link : String
  index : IterationIndex
  task : TaskId

/-- How it was started. -/
def Branching.start (steps : List Step) (x : Branching) : Deed scene :=
  .start (.branch x.link x.index steps) x.task

/-- How a history goes on. -/
theorem Follows.extend {h₀ : List (Event scene)} {c₀ : Crew scene W} {g₀ : Stages}
    {x : Member scene} (hf : Follows b V F w h₀ c₀ g₀) (hr : Crew.Reaches m IsOutside c₀ h c)
    (hF : Findings.CoverAll F h) (hx : c₀.members[t]? = some x) :
    ∃ g, Follows b V F w (h₀ ++ h) c g ∧ Along (Next (F t) x.job) (g₀ t) (deedsOf h t) (g t) := by
  induction hr with
  | refl => exact ⟨g₀, (List.append_nil h₀).symm ▸ hf, .nil⟩
  | @step h d e d' hd hs ih =>
    obtain ⟨g, hg, halong⟩ := ih fun t d hin => hF t d (List.mem_append_left _ hin)
    obtain ⟨g', hmoves, ho'⟩ := hg.inOrder.step hs fun t d he =>
      hF t d (List.mem_append_right _ (by simp [he]))
    refine ⟨g', by rw [← List.append_assoc]; exact .snoc hg hs hmoves ho', ?_⟩
    rcases hmoves.stage hs t with ⟨heq, hidle⟩ | ⟨y, deed, rfl, hy, hnext⟩ | ⟨u, job, -, hlen, -⟩
    · rw [deedsOf_idle hidle, heq]
      exact halong
    · obtain ⟨z, hz, hjob⟩ := hd.job hx
      obtain rfl := Option.some.inj (hy.symm.trans hz)
      rw [deedsOf_act]
      exact halong.snoc (hjob ▸ hnext)
    · have hlt := Nat.lt_of_lt_of_le (Crew.lt_of_member hx) hd.length_le
      exact absurd hlt (hlen ▸ Nat.lt_irrefl _)

/-- Who has started branches keeps them all. -/
theorem Along.starts {F : Findings} {job : Job} {w₀ : Work} {s' : Stage} {steps : List Step}
    {branches : List Branching}
    (h : Along (Next F job) (.working w₀) (branches.map (·.start steps)) s') :
    ∃ w₁, s' = .working w₁ ∧ w₁.branches = w₀.branches ++ branches.map (·.task) := by
  induction branches using List.reverseRecOn generalizing s' with
  | nil => exact ⟨w₀, h.of_nil, (List.append_nil _).symm⟩
  | append_singleton branches x ih =>
    rw [List.map_append] at h
    obtain ⟨s₁, h, hnext⟩ := h.last
    obtain ⟨w₁, rfl, hw₁⟩ := ih h
    obtain ⟨w, hw, -, rfl⟩ := Next.dispatches hnext trivial
    cases hw
    exact ⟨_, rfl, by rw [List.map_append, ← List.append_assoc, ← hw₁]; rfl⟩

section
variable {h₀ h₁ : List (Event scene)} {c₀ c₁ : Crew scene W} {g₀ g₁ : Stages} {steps : List Step}
  {branches : List Branching} {r : Outcome Fault Unit}

/-- When a crawl is over its branches have ended well, and when it began no other branch went on. -/
theorem Follows.crawled (hf₀ : Follows b V F w h₀ c₀ g₀) (hf₁ : Follows b V F w (h₀ ++ h₁) c₁ g₁)
    (halong : Along (Next (F 0) b.job) (g₀ 0) (branches.map (·.start steps)) (g₁ 0))
    (hs : Crew.Step m IsOutside c₁ (.act 0 (.meet (branches.map (·.task)) false r)) c)
    (hh : ∀ e ∈ h₀ ++ h₁, Event.IsCalm e) :
    r = .ok () ∧ (∀ t ∈ branches.map (·.task), ∃ v, c₁.result? t = some (.ok v)) ∧
      BranchesEnded c₀ := by
  have ho₁ := hf₁.inOrder
  have hcalm := hf₁.calm hh
  obtain ⟨w₀, hw₀, -⟩ := hf₀.inOrder.home
  rw [hw₀] at halong
  obtain ⟨w₁, hw₁, hbranches⟩ := Along.starts halong
  obtain ⟨g, hg, -⟩ := ho₁.step hs fun t d he => by cases he; trivial
  rcases hg.stage hs 0 with ⟨-, hne⟩ | ⟨x, d, he, hx, hnext⟩ | ⟨_, _, he, -⟩
  · exact absurd rfl (hne _)
  · cases he
    obtain ⟨w', hw', hts⟩ := hnext.meets
    cases hw₁.symm.trans hw'
    have hnone : w₀.branches = [] := by
      rcases hts with ⟨-, hnil, -⟩ | ⟨-, heq⟩
      · rw [hnil] at hbranches
        exact (List.append_eq_nil_iff.1 hbranches.symm).1
      · rw [hbranches] at heq
        exact List.self_eq_append_left.1 heq
    have hended : BranchesEnded c₀ := by
      intro t y hy hbranch hgoes
      obtain ⟨w', hw', hin⟩ := hf₀.kin.listed t y hy hbranch hgoes
      cases hw₀.symm.trans hw'
      rw [hnone] at hin
      cases hin
    cases hs with
    | act hx' _ _ ha =>
      have hoffers : c₁.Offers (.meet (branches.map (·.task)) false r) := by
        rw [hcalm.not_told_of_working ho₁ hx' hw₁] at ha
        exact offers_of_allows ha
      rcases hcalm.meets ho₁ hf₁.kin hw₁ hoffers hts with ⟨a, rfl⟩ | ⟨hnil, fault, rfl⟩
      · exact ⟨rfl, ended_of_meet ha, hended⟩
      · -- a bad end is that of somebody
        rw [hnil] at hbranches
        rw [(List.append_eq_nil_iff.1 hbranches.symm).2] at hoffers
        cases hoffers with
        | bad ht => cases ht
  · cases he

/-- While a crawl goes on nobody but its branches adds to the report. -/
theorem Follows.outsiders (hf₀ : Follows b V F w h₀ c₀ g₀) (hf₁ : Follows b V F w (h₀ ++ h₁) c₁ g₁)
    (hr : Crew.Reaches m IsOutside c₀ h₁ c₁) (hended : BranchesEnded c₀)
    (hstarts : deedsOf h₁ 0 = branches.map (·.start steps)) (ht : t ∉ branches.map (·.task)) :
    ∀ d ∈ deedsOf h₁ t, Deed.executed? d = none ∧ Deed.failure? d = none := by
  intro d hd
  by_cases hzero : t = 0
  · subst hzero
    rw [hstarts] at hd
    obtain ⟨x, -, rfl⟩ := List.mem_map.1 hd
    exact ⟨rfl, rfl⟩
  · have hin : .act t d ∈ h₀ ++ h₁ := List.mem_append_right _ (mem_deedsOf.1 hd)
    obtain ⟨x, hx⟩ := hf₁.inOrder.member_of_deed hin
    by_cases hbranch : x.job.IsBranch
    · obtain ⟨u, hu⟩ := hf₁.reaches.started_of_member hx (Nat.pos_of_ne_zero hzero)
      obtain rfl := hf₁.dispatched hu hbranch
      rcases List.mem_append.1 hu with hu | hu
      · -- a branch of another crawl has ended before
        obtain ⟨y, hy, hjob⟩ := hf₀.reaches.job_of_started hu
        obtain ⟨v, hv⟩ := Option.ne_none_iff_exists'.1 (hended t y hy (hjob ▸ hbranch))
        have hresult : c₀.result? t = some v := by rw [Crew.result?, hy, Option.bind_some, hv]
        exact absurd (mem_deedsOf.1 hd) ((hr.ended hresult).2 d)
      · have hstart := mem_deedsOf.2 hu
        rw [hstarts] at hstart
        obtain ⟨y, hy, heq⟩ := List.mem_map.1 hstart
        obtain ⟨-, rfl⟩ := Deed.start.inj heq
        exact absurd (List.mem_map_of_mem hy) ht
    · exact hf₁.inOrder.adds_nothing hx hzero hbranch d (mem_deedsOf.2 hin)

/-- What a branch that was started has done when it has ended well. -/
theorem Follows.branch_done {x : Branching} (hf₀ : Follows b V F w h₀ c₀ g₀)
    (hf₁ : Follows b V F w (h₀ ++ h₁) c₁ g₁) (hr : Crew.Reaches m IsOutside c₀ h₁ c₁)
    (hin : .act u (x.start steps) ∈ h₁) {v : Yield} (hv : c₁.result? x.task = some (.ok v)) :
    Step.allKeepApart true steps = true ∧
      Program.Path (program (.branch x.link x.index steps)) (deedsOf h₁ x.task) (.done (.ok v)) := by
  obtain ⟨y, hy, hjob⟩ := hf₁.reaches.job_of_started (List.mem_append_right h₀ hin)
  have hfits := hf₁.inOrder.fits x.task y hy
  have hresult : y.result = some (.ok v) := by rwa [Crew.result?, hy, Option.bind_some] at hv
  -- it was not there before
  have hnew : deedsOf h₀ x.task = [] :=
    hf₀.inOrder.later _ (hr.starts.2 x.task (List.mem_filterMap.2 ⟨_, hin, rfl⟩)).1
  have hpart := hfits.part
  have hpath := hfits.path
  rw [deedsOf_append, hnew, List.nil_append, hjob] at hpath
  rw [hjob] at hpart
  rcases (hfits.ended _ hresult).2 with hdone | ⟨hcancelled, -⟩
  · exact ⟨hpart, hdone ▸ hpath⟩
  · cases hcancelled

/-- What a branch of a crawl has done when it has ended well. -/
theorem Follows.branch_path {x : Branching} (hf₀ : Follows b V F w h₀ c₀ g₀)
    (hf₁ : Follows b V F w (h₀ ++ h₁) c₁ g₁) (hr : Crew.Reaches m IsOutside c₀ h₁ c₁)
    (hstarts : deedsOf h₁ 0 = branches.map (·.start steps)) (hx : x ∈ branches) {v : Yield}
    (hv : c₁.result? x.task = some (.ok v)) :
    Step.allKeepApart true steps = true ∧
      Program.Path (program (.branch x.link x.index steps)) (deedsOf h₁ x.task) (.done (.ok v)) :=
  have hin : .act 0 (x.start steps) ∈ h₁ :=
    mem_deedsOf.1 (hstarts ▸ List.mem_map_of_mem (f := (·.start steps)) hx)
  hf₀.branch_done hf₁ hr hin hv

end

/-- Failures stay in their branches. A crawl starts branches and waits for them, whatever order all
tasks go on in and however calls end, as long as nobody tells a task to give up and the user does not
interrupt. Then all branches end well, and so does the crawl. What it adds to the report are the
actions and the failures of its branches, each of them once and in the order of its branch: a branch
that fails on the way adds its failure, with its link, its index and what the failure says, and the
first ones of its actions; any other adds no failure and all its actions. -/
theorem crawl_isolates_failures {W : Type} {m : Machine scene W} (V : Venue m) (w : W) (b : Brief)
    (ho : b.Opens V w) (hsteps : ¬ Step.Nested b.steps) (branches : List Branching)
    (steps : List Step) (r : Outcome Fault Unit) (h₀ h₁ : List (Event scene)) (c₀ c : Crew scene W)
    (hr₀ : b.Reaches m w h₀ c₀)
    (hr₁ : Crew.Reaches m IsOutside c₀
      (h₁ ++ [.act 0 (.meet (branches.map (·.task)) false r)]) c)
    (hstarts : deedsOf h₁ 0 = branches.map (·.start steps))
    (hh : ∀ e ∈ h₀ ++ h₁, Event.IsCalm e) :
    r = .ok () ∧ (∀ x ∈ branches, ∃ v, c.result? x.task = some (.ok v)) ∧
    (branches.map (·.task)).Nodup ∧
    ∃ actions notes executed failures, Interleaves actions executed ∧ Interleaves notes failures ∧
      (V.report c₀.world).Adds executed failures (V.report c.world) ∧
      (∀ t : TaskId, t ∉ branches.map (·.task) → actions t = [] ∧ notes t = []) ∧
      ∀ x ∈ branches,
        (∀ fault, Raises x.link x.index steps (deedsOf h₁ x.task) fault →
          notes x.task = [⟨x.link, x.index, fault.message⟩] ∧
            actions x.task <+: Step.walkAll steps) ∧
        ((∀ fault, ¬ Raises x.link x.index steps (deedsOf h₁ x.task) fault) →
          notes x.task = [] ∧ actions x.task = Step.walkAll steps) := by
  obtain ⟨c₁, hr, hs⟩ := hr₁.last
  obtain ⟨g₀, hf₀⟩ := exists_follows ho (Step.allKeepApart_of_not_nested hsteps) hr₀ coverAll_anything
  obtain ⟨x₀, hx₀, hjob₀⟩ := hf₀.inOrder.chief
  obtain ⟨g₁, hf₁, halong⟩ := hf₀.extend hr coverAll_anything hx₀
  rw [hstarts, hjob₀] at halong
  obtain ⟨hok, hwell, hended⟩ := hf₀.crawled hf₁ halong hs hh
  have hwell' : ∀ x ∈ branches, ∃ v, c₁.result? x.task = some (.ok v) :=
    fun x hx => hwell _ (List.mem_map_of_mem hx)
  refine ⟨hok, fun x hx => (hwell' x hx).imp fun v hv => hs.result hv, ?_,
    fun t => (deedsOf h₁ t).filterMap Deed.executed?, fun t => (deedsOf h₁ t).filterMap Deed.failure?,
    _, _, interleaves_entries _ h₁, interleaves_entries _ h₁, ?_, fun t ht => ?_, fun x hx => ?_⟩
  · have htasks : (branches.map (·.start steps)).filterMap Deed.started? =
        branches.map (·.task) := by
      rw [List.filterMap_map]
      exact congrFun List.filterMap_eq_map branches
    exact htasks ▸ hstarts ▸ hr.starts.1.sublist (starts_sublist h₁ 0)
  · have hadds := reported V hr₁
    rw [entries_skip, entries_skip] at hadds
    · exact hadds
    · rfl
    · rfl
  · have hnone := hf₀.outsiders hf₁ hr hended hstarts ht
    exact ⟨List.filterMap_eq_nil_iff.2 fun d hd => (hnone d hd).1,
      List.filterMap_eq_nil_iff.2 fun d hd => (hnone d hd).2⟩
  · obtain ⟨v, hv⟩ := hwell' x hx
    obtain ⟨happ, hpath⟩ := hf₀.branch_path hf₁ hr hstarts hx hv
    rcases branch_outcome happ hpath with ⟨fault, hraises, hnoted, hfirst⟩ | ⟨hnever, hnoted, hall⟩
    · refine ⟨fun f hf => ?_, fun hnever => absurd ((hraises fault).2 rfl) (hnever fault)⟩
      rw [(hraises f).1 hf]
      exact ⟨hnoted, hfirst⟩
    · exact ⟨fun f hf => absurd hf (hnever f), fun _ => ⟨hnoted, hall⟩⟩

/-- The same world, but the second link cannot be opened. -/
def brokenLink (limit : Nat) : World :=
  let rule : Rule :=
    { on := "goto", key := some "http://a/2", course := { fault := some (.raised .failure "boom") } }
  let w := twoLinks limit
  { w with browser := { w.browser with site := { w.browser.site with rules := [rule] } } }

/-- The branches that its crawl starts. -/
def bothLinks : List Branching :=
  [⟨"http://a/1", .child .root 1, 1⟩, ⟨"http://a/2", .child .root 2, 2⟩]

/-- What each of them is to do. -/
def clickSteps : List Step := [.click (some "b") none none]

/-- The branch is started to do that. -/
def Branching.startsIn (x : Branching) : Deed scene → Bool
  | .start (.branch link index [.click (some s) none none]) t =>
    link == x.link && index == x.index && s == "b" && t == x.task
  | _ => false

theorem Branching.eq_start {x : Branching} {d : Deed scene} (h : x.startsIn d = true) :
    d = x.start clickSteps := by
  unfold startsIn at h
  split at h
  · simp only [Bool.and_eq_true, beq_iff_eq] at h
    obtain ⟨⟨⟨rfl, rfl⟩, rfl⟩, rfl⟩ := h
    rfl
  · cases h

/-- All these branches are started to do that, one after the other, and nothing else happens. -/
def startAll : List Branching → List (Deed scene) → Bool
  | [], [] => true
  | x :: xs, d :: ds => x.startsIn d && startAll xs ds
  | _, _ => false

theorem eq_starts {xs : List Branching} {ds : List (Deed scene)} (h : startAll xs ds = true) :
    ds = xs.map (·.start clickSteps) := by
  induction xs generalizing ds with
  | nil =>
    cases ds with
    | nil => rfl
    | cons => cases h
  | cons x xs ih =>
    cases ds with
    | nil => cases h
    | cons d ds =>
      rw [startAll, Bool.and_eq_true] at h
      rw [List.map_cons, ← Branching.eq_start h.1, ← ih h.2]

/-- A history up to the end of a crawl, if it ends with it. -/
def crawled? (ts : List TaskId) (h : List (Event scene)) :
    Option (List (Event scene) × Outcome Fault Unit) :=
  match h.getLast? with
  | some (.act 0 (.meet us false r)) => if us = ts then some (h.dropLast, r) else none
  | _ => none

theorem eq_of_crawled? {ts : List TaskId} {h h₁ : List (Event scene)} {r : Outcome Fault Unit}
    (heq : crawled? ts h = some (h₁, r)) : h = h₁ ++ [.act 0 (.meet ts false r)] := by
  unfold crawled? at heq
  split at heq
  · rename_i us r' hlast
    obtain ⟨h', rfl⟩ := List.getLast?_eq_some_iff.1 hlast
    split at heq
    · rename_i hts
      cases heq
      rw [List.dropLast_concat, hts]
    · cases heq
  · cases heq

/-- The second branch fails, the first one is not harmed, and the crawl ends well. -/
theorem crawl_isolates_failures_brokenLink : ∃ h₀ h₁ c₀ c r,
    (crawlBrief 2).Reaches machine (brokenLink 2) h₀ c₀ ∧
    Crew.Reaches machine IsOutside c₀
      (h₁ ++ [.act 0 (.meet (bothLinks.map (·.task)) false r)]) c ∧
    deedsOf h₁ 0 = bothLinks.map (·.start clickSteps) ∧ r = .ok () ∧
    (∀ x ∈ bothLinks, ∃ v, c.result? x.task = some (.ok v)) ∧
    c.world.report.executed.toList = [.crawl, .click] ∧
    c.world.report.failures.toList = [⟨"http://a/2", .child .root 2, "boom"⟩] := by
  have hplay : (Crew.rehearse machine (List.replicate 7 0)
      (Crew.single machine (brokenLink 2) (crawlBrief 2).job)).any (fun x =>
      (Crew.rehearse machine ([0, 0] ++ List.replicate 4 1 ++ List.replicate 14 2 ++
        List.replicate 14 1 ++ [0]) x.2).any fun y =>
      (crawled? (bothLinks.map (·.task)) y.1).any fun z =>
        (x.1 ++ z.1).all (fun e => Event.IsCalm e) && startAll bothLinks (deedsOf z.1 0) &&
        y.2.world.report.executed.toList == [.crawl, .click] &&
        y.2.world.report.failures.toList == [⟨"http://a/2", .child .root 2, "boom"⟩]) = true := by
    decide +kernel
  obtain ⟨⟨h₀, c₀⟩, hbefore, hplay⟩ := (Option.any_eq_true _ _).1 hplay
  obtain ⟨⟨h, c⟩, hrun, hplay⟩ := (Option.any_eq_true _ _).1 hplay
  obtain ⟨⟨h₁, r⟩, hover, hplay⟩ := (Option.any_eq_true _ _).1 hplay
  simp only [Bool.and_eq_true, List.all_eq_true, decide_eq_true_eq, beq_iff_eq] at hplay
  obtain ⟨⟨⟨hcalm, hstart⟩, hexecuted⟩, hfailures⟩ := hplay
  have hr₀ : (crawlBrief 2).Reaches machine (brokenLink 2) h₀ c₀ :=
    Crew.reaches_of_rehearse .refl hbefore
  have hr₁ : Crew.Reaches machine IsOutside c₀
      (h₁ ++ [.act 0 (.meet (bothLinks.map (·.task)) false r)]) c :=
    eq_of_crawled? hover ▸ Crew.reaches_of_rehearse .refl hrun
  have hopens : (crawlBrief 2).Opens World.venue (brokenLink 2) := ⟨Nat.zero_lt_two, rfl, Nat.zero_lt_one⟩
  obtain ⟨hok, hwell, -⟩ := crawl_isolates_failures World.venue (brokenLink 2) (crawlBrief 2) hopens
    (Step.not_nested (b := false) rfl) bothLinks clickSteps r h₀ h₁ c₀ c hr₀ hr₁ (eq_starts hstart)
    hcalm
  exact ⟨h₀, h₁, c₀, c, r, hr₀, hr₁, eq_starts hstart, hok, hwell, hexecuted, hfailures⟩

end BrowserPlan.Run
