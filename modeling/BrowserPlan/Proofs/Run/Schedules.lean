import BrowserPlan.Proofs.Run.Crawling
import BrowserPlan.Proofs.Run.Reporting

/-!
# Schedules make no difference

What a crawl with simple steps comes to depends neither on the order in which its branches go on, nor on how
long their calls take, nor on how many pages they share: in two worlds with the same habits each branch makes
the same calls, writes the same records and fails in the same way or not at all
(`crawl_independent_of_schedule`). So the reports differ in the order of their entries only.
-/
namespace BrowserPlan.Run

open BrowserPlan.Task BrowserPlan.Browser

/-! ## Interleavings of the same parts -/

/-- An interleaving of finitely many lists holds what they hold. -/
theorem Interleaves.perm {ι α : Type} [DecidableEq ι] {parts : ι → List α} {l : List α} (h : Interleaves parts l)
    {is : List ι} (hnodup : is.Nodup) (his : ∀ i ∉ is, parts i = []) : l.Perm (is.flatMap parts) := by
  obtain ⟨tagged, rfl, hparts⟩ := h
  induction is generalizing tagged parts with
  | nil =>
    cases tagged with
    | nil => exact .nil
    | cons x xs =>
      have hx := hparts x.1
      rw [his x.1 List.not_mem_nil] at hx
      simp at hx
  | cons i is ih =>
    obtain ⟨hi, hnodup⟩ := List.nodup_cons.1 hnodup
    -- take out what is tagged with `i`
    have hrest := @ih (fun j => if j = i then [] else parts j) hnodup (fun j hj => ?_)
      (tagged.filter fun x => ¬ x.1 = i) fun j => ?_
    · have hsplit := (List.filter_append_perm (fun x => decide (x.1 = i)) tagged).map Prod.snd
      rw [List.map_append, hparts i] at hsplit
      have hsame : is.flatMap (fun j => if j = i then [] else parts j) = is.flatMap parts :=
        List.flatMap_congr fun j hj => if_neg (by rintro rfl; exact hi hj)
      rw [hsame] at hrest
      refine hsplit.symm.trans ?_
      rw [List.flatMap_cons]
      refine List.Perm.append_left _ ?_
      simpa using hrest
    · by_cases hji : j = i
      · exact if_pos hji
      · exact (if_neg hji).trans (his j fun hmem => (List.mem_cons.1 hmem).elim hji hj)
    · rw [List.filter_filter]
      by_cases hji : j = i
      · subst hji
        simp
      · rw [if_neg hji, ← hparts j]
        congr 1
        refine List.filter_congr fun x _ => ?_
        by_cases hx : x.1 = j <;> simp [hx, hji]

/-! ## A crawl in a steady world -/

section
variable {W : Type} {m : Machine scene W} {V : Venue m} {B : Habits} {b : Brief} {F : TaskId → Findings}
  {h₀ h : List (Event scene)} {c₀ c : Crew scene W} {g₀ g : Stages} {w₀ : W} {steps : List Step}
  {u v : String} {ds : List (Deed scene)}

/-- The world keeps to its habits in every history. -/
theorem Steady.holds_reaches (S : Steady V B) (hr : Crew.Reaches m IsOutside c₀ h c)
    (hholds : S.holds c₀.world) : S.holds c.world := by
  induction hr with
  | refl => exact hholds
  | step _ hs ih => exact S.holds_step hs ih

theorem along_unmoved (h : Along (Serves B) u ds v) (hds : ∀ d ∈ ds, ∃ q a, d = .ask q a ∧ q.isEnd = false) :
    v = u := by
  induction h with
  | nil => rfl
  | snoc _ hd ih =>
    obtain rfl := ih fun d hd => hds d (List.mem_append_left _ hd)
    obtain ⟨q, a, rfl, hq⟩ := hds _ (List.mem_append_right _ List.mem_cons_self)
    obtain ⟨hforeseen, hafter⟩ := B.unmoved (a := a) _ hq
    exact (hd hforeseen).1.trans hafter

section
variable {page : PageId} {index : IterationIndex} {selector xpath : Option String} {attributeName : String}
  {r : Outcome Fault Unit}

/-- A crawl itself puts no files and no failures into the report. -/
theorem CrawlPath.reports_nothing (hpath : CrawlPath page index selector xpath attributeName steps ds r) :
    ∀ d ∈ ds, Deed.produced? d = none ∧ Deed.failure? d = none := by
  obtain ⟨n, links, found, rest, rfl, hfind, hends⟩ := hpath
  have hlinks := (unreported_crawlLinks page index selector xpath attributeName).path hfind
  intro d hd
  simp only [opening, List.mem_append, List.mem_cons, List.not_mem_nil, or_false] at hd
  rcases hd with (rfl | rfl | rfl) | hd | hd | rfl
  · exact ⟨rfl, rfl⟩
  · exact ⟨rfl, rfl⟩
  · exact ⟨rfl, rfl⟩
  · exact ⟨(hlinks d hd).produced?, (hlinks d hd).failure?⟩
  · cases hends with
    | lost => cases hd
    | met branches r =>
      rcases List.mem_append.1 hd with hd | hd
      · obtain ⟨x, -, rfl⟩ := List.mem_map.1 hd
        exact ⟨rfl, rfl⟩
      · cases List.mem_singleton.1 hd
        exact ⟨rfl, rfl⟩
  · exact ⟨rfl, rfl⟩

end

/-- A run with a crawl in a steady world. By the history `before`, its first task has come to the crawl; it
carries it out in the history `during`, in which pages and files can be made. Nobody interrupts. -/
structure CrawlRun (S : Steady V B) (index : IterationIndex) (selector xpath : Option String)
    (attributeName : String) (steps : List Step) where
  brief : Brief
  world : W
  before : List (Event scene)
  during : List (Event scene)
  start : Crew scene W
  stop : Crew scene W
  /-- How the crawl ends. -/
  result : Outcome Fault Unit
  opens : brief.Opens V world
  holds : S.holds world
  unnested : ¬ Step.Nested brief.steps
  comes : brief.Reaches m world before start
  goes : Crew.Reaches m IsOutside start during stop
  crawls : Program.Path (runStep brief.home index (.crawl selector xpath attributeName steps)) (deedsOf during 0)
    (.done result)
  calm : ∀ e ∈ before ++ during, Event.IsCalm e
  smooth : ∀ e ∈ during, Event.IsSmooth e

namespace CrawlRun

variable {S : Steady V B} {index : IterationIndex} {selector xpath : Option String} {attributeName : String}

/-- Where the page is when the crawl begins. -/
def place (R : CrawlRun S index selector xpath attributeName steps) : String :=
  S.place R.start.world R.brief.home

/-- What comes of a crawl that has found these links: a branch for each, and each of them is served by the
habits of the site to its good end. Nobody else puts anything into the report. -/
structure Comes (R : CrawlRun S index selector xpath attributeName steps)
    (found : Outcome Fault (List (String × IterationIndex))) (branches : List Branching) : Prop where
  result : R.result = found.map fun _ => ()
  links : found.toOption.getD [] = branches.map fun x => (x.link, x.index)
  starts : ((deedsOf R.during 0).filter fun d => d.started?.isSome) = branches.map (·.start steps)
  apart : (branches.map (·.task)).Nodup
  served : ∀ x ∈ branches, ∃ u v y, Served B u (program (.branch x.link x.index steps)) (deedsOf R.during x.task)
    (.ok y) v ∧ R.stop.result? x.task = some (.ok y)
  others : ∀ t ∉ branches.map (·.task), ∀ d ∈ deedsOf R.during t, Deed.produced? d = none ∧ Deed.failure? d = none

variable (R : CrawlRun S index selector xpath attributeName steps)

/-- The course of the crawl. -/
theorem exists_crawling (hsteps : Step.allSimple steps = true) : ∃ g₀ g,
    Follows R.brief V (fun _ _ _ => True) R.world R.before R.start g₀ ∧
    Follows R.brief V (fun _ _ _ => True) R.world (R.before ++ R.during) R.stop g ∧
    Crawling S R.start.members.length R.place steps R.during R.stop g := by
  obtain ⟨hpath⟩ := crawl_path R.crawls
  obtain ⟨g₀, hf₀⟩ := exists_follows R.opens (Step.allKeepApart_of_not_nested R.unnested) R.comes coverAll_anything
  obtain ⟨x₀, hx₀, -⟩ := hf₀.inOrder.chief
  obtain ⟨k, hk, -, -⟩ := hf₀.inOrder.home
  -- it waits for nobody when it begins the crawl
  obtain ⟨hhelpers, hbranches⟩ : k.helpers = [] ∧ k.branches = [] := by
    obtain ⟨g, -, halong⟩ := hf₀.extend R.goes coverAll_anything hx₀
    rw [hpath.eq, hk] at halong
    obtain ⟨s, hnext, -⟩ := Along.head halong
    cases hnext with
    | executed action a hh hb hr => exact ⟨hh, hb⟩
    | quiet h => cases h with
      | aside h | pause h | call _ _ h => cases h
    | aside h | share h | deal h => cases h
  have hstarts : ∀ job u, .start job u ∈ deedsOf R.during 0 → ∃ link index, job = .branch link index steps := by
    intro job u hin
    have hmem : Deed.start job u ∈ (deedsOf R.during 0).filter fun d => d.started?.isSome :=
      List.mem_filter.2 ⟨hin, rfl⟩
    rcases hpath.lost_or_starts with ⟨e, hlost⟩ | ⟨branches, hmet⟩
    · rw [hlost.starts] at hmem
      cases hmem
    · rw [hmet.starts] at hmem
      obtain ⟨x, -, hx⟩ := List.mem_map.1 hmem
      cases hx
      exact ⟨_, _, rfl⟩
  have hfirst : Crawling S R.start.members.length R.place steps [] R.start g₀ :=
    .first hf₀ (fun e he => R.calm e (List.mem_append_left _ he)) (S.holds_reaches R.comes R.holds) hk hhelpers hbranches
  obtain ⟨g, hf, hcrawling⟩ := hfirst.of_reaches hsteps hf₀ R.opens R.goes coverAll_anything R.calm R.smooth hstarts
  exact ⟨g₀, g, hf₀, hf, hcrawling⟩

variable {R}

/-- The links are found as the habits of the site will have it. -/
theorem links_served (hf : Follows R.brief V (fun _ _ _ => True) R.world (R.before ++ R.during) R.stop g)
    (hcrawling : Crawling S R.start.members.length R.place steps R.during R.stop g)
    (hpath : CrawlPath R.brief.home index selector xpath attributeName steps (deedsOf R.during 0) R.result) :
    ∃ there, Served B R.place (crawlLinks R.brief.home index selector xpath attributeName) hpath.links hpath.found
      there := by
  obtain ⟨k, hk, -, -⟩ := hf.inOrder.home
  have halong := hcrawling.chief k hk
  rw [hpath.eq] at halong
  obtain ⟨u, hfirst, halong⟩ := halong.split
  obtain ⟨there, hlinks, -⟩ := halong.split
  obtain rfl : u = R.place := along_unmoved hfirst (by simp [opening, Call.isEnd])
  exact ⟨there, hpath.path, hlinks⟩

/-- When a crawl is over, its branches have ended well. -/
theorem branches_done {branches : List Branching} {r : Outcome Fault Unit} {pre post : List (Deed scene)}
    (hf₀ : Follows R.brief V (fun _ _ _ => True) R.world R.before R.start g₀)
    (heq : deedsOf R.during 0 = pre ++ (branches.map (·.start steps) ++ .meet (branches.map (·.task)) false r :: post)) :
    r = .ok () ∧ ∀ x ∈ branches, ∃ y, R.stop.result? x.task = some (.ok y) := by
  obtain ⟨h₁, h', hduring, -, hrest⟩ := deedsOf_split heq
  obtain ⟨h₂, h'', rfl, hstarts, hrest⟩ := deedsOf_split hrest
  obtain ⟨h₃, h₄, rfl, hnone, -⟩ := deedsOf_head hrest
  have hcalm := R.calm
  have hgoes := R.goes
  rw [hduring] at hgoes hcalm
  obtain ⟨c₁, hr₁, hgoes⟩ := hgoes.split
  rw [← List.append_assoc] at hgoes
  obtain ⟨c₂, hr₂, hgoes⟩ := hgoes.split
  obtain ⟨c₃, hmeet, hr₃⟩ := hgoes.head
  obtain ⟨x₀, hx₀, -⟩ := hf₀.inOrder.chief
  obtain ⟨g₁, hf₁, -⟩ := hf₀.extend hr₁ coverAll_anything hx₀
  obtain ⟨x₁, hx₁, hjob₁⟩ := hf₁.inOrder.chief
  obtain ⟨g₂, hf₂, halong⟩ := hf₁.extend hr₂ coverAll_anything hx₁
  rw [deedsOf_append, hstarts, hnone, List.append_nil, hjob₁] at halong
  obtain ⟨hok, hends, -⟩ := hf₁.crawled hf₂ halong hmeet fun e he => hcalm e (by
    simp only [List.mem_append, List.mem_cons] at he ⊢
    tauto)
  refine ⟨hok, fun x hx => ?_⟩
  obtain ⟨y, hy⟩ := hends _ (List.mem_map_of_mem hx)
  exact ⟨y, (hr₃.ended (hmeet.result hy)).1⟩

/-- A branch of the crawl is served by the habits of the site. -/
theorem branch_served {x : Branching} {y : Yield}
    (hf₀ : Follows R.brief V (fun _ _ _ => True) R.world R.before R.start g₀)
    (hf : Follows R.brief V (fun _ _ _ => True) R.world (R.before ++ R.during) R.stop g)
    (hcrawling : Crawling S R.start.members.length R.place steps R.during R.stop g)
    (hx : x.start steps ∈ deedsOf R.during 0) (hy : R.stop.result? x.task = some (.ok y)) :
    ∃ u v, Served B u (program (.branch x.link x.index steps)) (deedsOf R.during x.task) (.ok y) v := by
  have hin := mem_deedsOf.1 hx
  obtain ⟨-, hpath⟩ := hf₀.branch_done hf R.goes hin hy
  obtain ⟨hnew, hlt⟩ := R.goes.starts.2 x.task (List.mem_filterMap.2 ⟨_, hin, rfl⟩)
  obtain ⟨u, v, halong⟩ := (hcrawling.tracked x.task hlt hnew).served
  exact ⟨u, v, hpath, halong⟩

/-- Only the branches of the crawl put anything into the report. -/
theorem others_report_nothing (hsteps : Step.allSimple steps = true) {branches : List Branching}
    (hf : Follows R.brief V (fun _ _ _ => True) R.world (R.before ++ R.during) R.stop g)
    (hcrawling : Crawling S R.start.members.length R.place steps R.during R.stop g)
    (hpath : CrawlPath R.brief.home index selector xpath attributeName steps (deedsOf R.during 0) R.result)
    (hstarts : ((deedsOf R.during 0).filter fun d => d.started?.isSome) = branches.map (·.start steps))
    {t : TaskId} (ht : t ∉ branches.map (·.task)) {d : Deed scene} (hd : d ∈ deedsOf R.during t) :
    Deed.produced? d = none ∧ Deed.failure? d = none := by
  rcases hcrawling.acts t d (mem_deedsOf.1 hd) with rfl | hn
  · exact hpath.reports_nothing d hd
  · -- whoever has joined was started by the first task
    obtain ⟨z, hz⟩ := hf.inOrder.member_of_deed (List.mem_append_right _ (mem_deedsOf.1 hd))
    obtain ⟨u, hu⟩ := R.goes.started_of_member hz hn
    have hu₀ : u = 0 := by
      rcases hcrawling.acts u _ hu with hu₀ | hun
      · exact hu₀
      · obtain ⟨z', hz'⟩ := hf.inOrder.member_of_deed (List.mem_append_right _ hu)
        exact absurd trivial (hcrawling.alone hsteps hf.inOrder hz' hun _ (mem_deedsOf.2 hu))
    subst hu₀
    have hmem : Deed.start z.job t ∈ (deedsOf R.during 0).filter fun d => d.started?.isSome :=
      List.mem_filter.2 ⟨mem_deedsOf.2 hu, rfl⟩
    rw [hstarts] at hmem
    obtain ⟨x, hx, heq⟩ := List.mem_map.1 hmem
    obtain ⟨-, rfl⟩ := Deed.start.inj heq
    exact absurd (List.mem_map_of_mem hx) ht

/-- What comes of the crawl follows from the links that it finds, which are those that the habits of the site
will have it find. -/
theorem exists_comes (R : CrawlRun S index selector xpath attributeName steps) (hsteps : Step.allSimple steps = true) :
    ∃ links found there branches, R.Comes found branches ∧
      Served B R.place (crawlLinks R.brief.home index selector xpath attributeName) links found there := by
  obtain ⟨hpath⟩ := crawl_path R.crawls
  obtain ⟨g₀, g, hf₀, hf, hcrawling⟩ := R.exists_crawling hsteps
  obtain ⟨there, hserved⟩ := links_served hf hcrawling hpath
  rcases hpath.lost_or_starts with ⟨e, hlost⟩ | ⟨branches, hmet⟩
  · have hnobody : ((deedsOf R.during 0).filter fun d => d.started?.isSome) = ([] : List Branching).map (·.start steps) :=
      hlost.starts
    refine ⟨_, _, there, [], ⟨?_, ?_, hnobody, .nil, nofun, fun t ht d hd => ?_⟩, hserved⟩
    · rw [hlost.found]
      exact hlost.result
    · rw [hlost.found]
      rfl
    · exact others_report_nothing hsteps hf hcrawling hpath hnobody ht hd
  · obtain ⟨pre, post, heq⟩ := hmet.meets
    obtain ⟨hok, hends⟩ := branches_done hf₀ heq
    have hmem : ∀ x ∈ branches, x.start steps ∈ deedsOf R.during 0 := by
      intro x hx
      rw [heq]
      exact List.mem_append_right _ (List.mem_append_left _ (List.mem_map_of_mem hx))
    refine ⟨_, _, there, branches, ⟨?_, ?_, hmet.starts, ?_, fun x hx => ?_, fun t ht d hd => ?_⟩, hserved⟩
    · rw [hmet.found]
      exact hok
    · rw [hmet.found]
      rfl
    · have hsub : (branches.map (·.start steps)).Sublist (deedsOf R.during 0) := hmet.starts ▸ List.filter_sublist
      have htasks : (branches.map (·.start steps)).filterMap Deed.started? = branches.map (·.task) := by
        rw [List.filterMap_map]
        exact congrFun List.filterMap_eq_map branches
      exact htasks ▸ R.goes.starts.1.sublist ((hsub.filterMap _).trans (starts_sublist R.during 0))
    · obtain ⟨y, hy⟩ := hends x hx
      obtain ⟨u, v, hserved⟩ := branch_served hf₀ hf hcrawling (hmem x hx) hy
      exact ⟨u, v, y, hserved, hy⟩
    · exact others_report_nothing hsteps hf hcrawling hpath hmet.starts ht hd

/-! ## What is reported of a crawl -/

/-- The crawl starts these branches, all of which end well. -/
structure Spreads (R : CrawlRun S index selector xpath attributeName steps) (branches : List Branching) : Prop where
  starts : ((deedsOf R.during 0).filter fun d => d.started?.isSome) = branches.map (·.start steps)
  ends : ∀ x ∈ branches, ∃ y, R.stop.result? x.task = some (.ok y)

/-- The crawl adds these files and these failures to the report. -/
structure Reports (R : CrawlRun S index selector xpath attributeName steps) (outputs : List FilePath)
    (failures : List BranchFailure) : Prop where
  outputs : (V.report R.stop.world).outputs.toList = (V.report R.start.world).outputs.toList ++ outputs
  failures : (V.report R.stop.world).failures.toList = (V.report R.start.world).failures.toList ++ failures

/-- What the tasks have put into the report is what the branches have, in some order. -/
theorem Comes.entries_perm {α : Type} {f : Deed scene → Option α}
    {found : Outcome Fault (List (String × IterationIndex))} {branches : List Branching}
    (hcomes : R.Comes found branches)
    (hf : ∀ t ∉ branches.map (·.task), ∀ d ∈ deedsOf R.during t, f d = none) :
    ((entries f R.during).map Prod.snd).Perm (branches.flatMap fun x => (deedsOf R.during x.task).filterMap f) := by
  have hperm := (interleaves_entries f R.during).perm hcomes.apart fun t ht =>
    List.filterMap_eq_nil_iff.2 (hf t ht)
  rwa [List.flatMap_map] at hperm

theorem Comes.reports {found : Outcome Fault (List (String × IterationIndex))} {branches : List Branching}
    (hcomes : R.Comes found branches) : ∃ outputs failures, R.Reports outputs failures ∧
      outputs.Perm (branches.flatMap fun x => (deedsOf R.during x.task).filterMap Deed.produced?) ∧
      failures.Perm (branches.flatMap fun x => (deedsOf R.during x.task).filterMap Deed.failure?) :=
  ⟨_, _, ⟨outputs_reported V R.goes, (reported V R.goes).2⟩,
    hcomes.entries_perm fun t ht d hd => (hcomes.others t ht d hd).1,
    hcomes.entries_perm fun t ht d hd => (hcomes.others t ht d hd).2⟩

end CrawlRun

/-! ## Reports and accounts -/

/-- The file that a mark tells of. -/
def Mark.produced? : Mark → Option FilePath
  | .produced path => some path
  | _ => none

/-- The failure that a mark tells of. -/
def Mark.failure? : Mark → Option BranchFailure
  | .failed failure => some failure
  | _ => none

theorem account_filterMap {α : Type} {f : Mark → Option α} {f' : Deed scene → Option α}
    (hf : ∀ here d, (Deed.mark? here d).bind f = f' d) (ds : List (Deed scene)) :
    ∀ here, (B.account here ds).filterMap f = ds.filterMap f' := by
  induction ds with
  | nil => exact fun _ => rfl
  | cons d ds ih =>
    intro here
    rw [Habits.account, List.filterMap_append, ih, ← List.singleton_append (x := d), List.filterMap_append]
    congr 1
    rw [List.filterMap_cons, List.filterMap_nil, ← hf here d]
    cases hmark : Deed.mark? here d with
    | none => rfl
    | some mark => cases hmade : f mark <;> simp [hmade]

theorem produced_mark (here : String) (d : Deed scene) :
    (Deed.mark? here d).bind Mark.produced? = Deed.produced? d := by
  cases d with
  | ask q a =>
    cases q with
    | «begin» who op =>
      change ((Sight.of? (fun _ => here) who op).map (Mark.call · op)).bind Mark.produced? = none
      cases Sight.of? (fun _ => here) who op <;> rfl
    | _ => rfl
  | _ => rfl

theorem failure_mark (here : String) (d : Deed scene) :
    (Deed.mark? here d).bind Mark.failure? = Deed.failure? d := by
  cases d with
  | ask q a =>
    cases q with
    | «begin» who op =>
      change ((Sight.of? (fun _ => here) who op).map (Mark.call · op)).bind Mark.failure? = none
      cases Sight.of? (fun _ => here) who op <;> rfl
    | _ => rfl
  | _ => rfl

end

/-! ## Two runs -/

section
variable {W W' : Type} {m : Machine scene W} {m' : Machine scene W'} {V : Venue m} {V' : Venue m'} {B : Habits}
  {S : Steady V B} {S' : Steady V' B} {index : IterationIndex} {selector xpath : Option String}
  {attributeName : String} {steps : List Step}
  {R : CrawlRun S index selector xpath attributeName steps}
  {R' : CrawlRun S' index selector xpath attributeName steps}

/-- The branches `x` and `x'` of two runs are for the same link, and from wherever they set out they give the same
account: they make the same calls, write the same records and put the same into the report. -/
structure CrawlRun.SameBranch (R : CrawlRun S index selector xpath attributeName steps)
    (R' : CrawlRun S' index selector xpath attributeName steps) (x x' : Branching) : Prop where
  link : x.link = x'.link
  index : x.index = x'.index
  account : ∀ here, B.account here (deedsOf R.during x.task) = B.account here (deedsOf R'.during x'.task)

/-- The branches of two runs that find the same links do the same. -/
theorem CrawlRun.Comes.sameBranches {found found' : Outcome Fault (List (String × IterationIndex))}
    {branches branches' : List Branching} (hsteps : Step.allSimple steps = true) (hcomes : R.Comes found branches)
    (hcomes' : R'.Comes found' branches')
    (hlinks : (branches.map fun x => (x.link, x.index)) = branches'.map fun x => (x.link, x.index)) :
    List.Forall₂ (R.SameBranch R') branches branches' := by
  refine List.forall₂_iff_get.2 ⟨by simpa using congrArg List.length hlinks, fun n hn hn' => ?_⟩
  have hsame : ((branches.get ⟨n, hn⟩).link, (branches.get ⟨n, hn⟩).index) =
      ((branches'.get ⟨n, hn'⟩).link, (branches'.get ⟨n, hn'⟩).index) := by
    simpa [hn, hn'] using congrArg (·[n]?) hlinks
  obtain ⟨hlink, hindex⟩ := Prod.mk.inj hsame
  obtain ⟨u, v, y, hserved, -⟩ := hcomes.served _ (List.get_mem branches ⟨n, hn⟩)
  obtain ⟨u', v', y', hserved', -⟩ := hcomes'.served _ (List.get_mem branches' ⟨n, hn'⟩)
  rw [← hlink, ← hindex] at hserved'
  exact ⟨hlink, hindex, agree_branch hsteps hserved hserved'⟩

/-- What is read off the accounts of the branches is the same in both runs. -/
theorem flatMap_sameBranches {α : Type} {f : Mark → Option α} {f' : Deed scene → Option α}
    (hf : ∀ here d, (Deed.mark? here d).bind f = f' d) {branches branches' : List Branching}
    (h : List.Forall₂ (R.SameBranch R') branches branches') :
    (branches.flatMap fun x => (deedsOf R.during x.task).filterMap f') =
      branches'.flatMap fun x => (deedsOf R'.during x.task).filterMap f' := by
  induction h with
  | nil => rfl
  | cons hx _ ih =>
    rw [List.flatMap_cons, List.flatMap_cons, ih, ← account_filterMap (B := B) hf _ Page.blank,
      ← account_filterMap (B := B) hf _ Page.blank, hx.account]

/-- In two worlds with the same habits, whatever the schedules, the delays and the numbers of pages, crawls from
pages at one address end alike. They start branches for the same links; each branch makes the same calls, writes
the same records and has the same failure or none in both; and the files and the failures that the two crawls
report are the same up to their order. -/
theorem crawl_independent_of_schedule (hsteps : Step.allSimple steps = true)
    (R : CrawlRun S index selector xpath attributeName steps)
    (R' : CrawlRun S' index selector xpath attributeName steps) (hplace : R.place = R'.place) :
    R.result = R'.result ∧ ∃ branches branches' outputs outputs' failures failures',
      (R.Spreads branches ∧ R.Reports outputs failures) ∧ (R'.Spreads branches' ∧ R'.Reports outputs' failures') ∧
        List.Forall₂ (R.SameBranch R') branches branches' ∧
        outputs.Perm outputs' ∧ failures.Perm failures' := by
  obtain ⟨links, found, there, branches, hcomes, hserved⟩ := R.exists_comes hsteps
  obtain ⟨links', found', there', branches', hcomes', hserved'⟩ := R'.exists_comes hsteps
  -- the two crawls find the same links
  rw [← hplace] at hserved'
  obtain ⟨-, -, hmatches⟩ :=
    agree_crawlLinks R.brief.home R'.brief.home index selector xpath attributeName _ _ _ _ _ _ hserved hserved'
  have hfound : found = found' := by
    match found, found' with
    | .ok a, .ok a' => exact congrArg _ hmatches.1
    | .error e, .error e' => exact congrArg _ hmatches
  subst hfound
  have hsame := hcomes.sameBranches hsteps hcomes' (hcomes.links.symm.trans hcomes'.links)
  obtain ⟨outputs, failures, hreports, houtputs, hfailures⟩ := hcomes.reports
  obtain ⟨outputs', failures', hreports', houtputs', hfailures'⟩ := hcomes'.reports
  have hends : R.Spreads branches := ⟨hcomes.starts, fun x hx => by
    obtain ⟨-, -, y, -, hy⟩ := hcomes.served x hx
    exact ⟨y, hy⟩⟩
  have hends' : R'.Spreads branches' := ⟨hcomes'.starts, fun x hx => by
    obtain ⟨-, -, y, -, hy⟩ := hcomes'.served x hx
    exact ⟨y, hy⟩⟩
  refine ⟨hcomes.result.trans hcomes'.result.symm, branches, branches', outputs, outputs', failures, failures',
    ⟨hends, hreports⟩, ⟨hends', hreports'⟩, hsame, ?_, ?_⟩
  · rw [flatMap_sameBranches produced_mark hsame] at houtputs
    exact houtputs.trans houtputs'.symm
  · rw [flatMap_sameBranches failure_mark hsame] at hfailures
    exact hfailures.trans hfailures'.symm

end

/-! ## A listing -/

/-- A run that carries out a single crawl is a run with a crawl. -/
theorem exists_crawlRun {W : Type} {m : Machine scene W} {V : Venue m} {B : Habits} (S : Steady V B) {b : Brief}
    {selector xpath : Option String} {attributeName : String} {steps : List Step} {w : W} {h : List (Event scene)}
    {c : Crew scene W} (hsteps : b.steps = [.crawl selector xpath attributeName steps])
    (hunnested : ¬ Step.Nested b.steps) (hopens : b.Opens V w) (hholds : S.holds w) (hr : b.Reaches m w h c)
    {r : Outcome Fault Yield} (hend : c.result? 0 = some r) (hbusy : deedsOf h 0 ≠ [])
    (hcalm : ∀ e ∈ h, Event.IsCalm e) (hsmooth : ∀ e ∈ h, Event.IsSmooth e) :
    ∃ R : CrawlRun S b.index selector xpath attributeName steps, R.brief = b ∧ R.start = Crew.single m w b.job ∧
      R.stop = c := by
  obtain ⟨r₀, hpath⟩ := (hr.path_done hend).resolve_left hbusy
  rw [V.program, Brief.job, hsteps] at hpath
  obtain ⟨result, hcrawls⟩ := single_step_path hpath
  exact ⟨⟨b, w, [], h, _, c, result, hopens, hholds, hunnested, .refl, hr, hcrawls, hcalm, hsmooth⟩, rfl, rfl, rfl⟩

/-- A site that lists three documents. The second one cannot be opened, and the first one after some time only. -/
def listing (delay : Nat) : Site :=
  let linkTo (url : String) : Markup := { props := [("href", .str url)] }
  let titled (title : String) : Markup := { children := [("h1", [{ props := [("textContent", .str title)] }])] }
  { documents := [("http://a/", { children := [("a", ["http://a/1", "http://a/2", "http://a/3"].map linkTo)] }),
      ("http://a/1", titled "one"), ("http://a/3", titled "three")]
    rules := [{ on := "goto", key := some "http://a/1", course := { delay := delay } },
      { on := "goto", key := some "http://a/2", course := { fault := some (.raised .failure "boom") } }] }

theorem listing_plain (delay : Nat) : ∀ r ∈ (listing delay).rules, r.IsPlain := by
  simp [listing, Rule.IsPlain]

theorem listing_sameButForTime (delay delay' : Nat) : (listing delay).SameButForTime (listing delay') := ⟨rfl, rfl⟩

/-- The world of a run that looks at the list, with a pool for so many pages. -/
def listingWorld (delay limit : Nat) : World :=
  let w := (World.ofSite (listing delay) ⟨[]⟩).withPage "main" "http://a/"
  { w with pool := { maxPages := limit }, session := { hasContext := true } }

/-- However long calls take there, it keeps to the same habits. -/
def listingSteady (delay : Nat) : Steady World.venue (listing 0).habits :=
  (World.steady (listing delay) (listing_plain delay)).copy (listing_sameButForTime delay 0).habits_eq

/-- The titles of the documents are read. -/
def titleSteps : List Step := [.scrape [("title", { selector := some "h1" })] "$i.json"]

def titleBrief (limit : Nat) : Brief :=
  { home := 0, steps := [.crawl (some "a") none "href" titleSteps], index := .root, limit := limit }

/-- The run ends, calmly and smoothly, with these titles and a failure in the report. -/
def lists (schedule : List TaskId) (delay limit : Nat) (titles : List String) : Bool :=
  (Crew.rehearse machine schedule (Crew.single machine (listingWorld delay limit) (titleBrief limit).job)).any fun x =>
    x.1.all (fun e => Event.IsCalm e ∧ Event.IsSmooth e) && !(deedsOf x.1 0).isEmpty && (x.2.result? 0).isSome &&
    x.2.world.report.outputs.toList == titles.map (⟨"", [·]⟩) &&
    x.2.world.report.failures.toList == [⟨"http://a/2", .child .root 2, "boom"⟩]

theorem exists_listingRun {schedule : List TaskId} {delay limit : Nat} {titles : List String} (hlimit : 0 < limit)
    (h : lists schedule delay limit titles = true) :
    ∃ R : CrawlRun (listingSteady delay) .root (some "a") none "href" titleSteps, R.brief.limit = limit ∧
      R.place = "http://a/" ∧ R.Reports (titles.map (⟨"", [·]⟩)) [⟨"http://a/2", .child .root 2, "boom"⟩] := by
  obtain ⟨⟨h, c⟩, hrun, hall⟩ := (Option.any_eq_true _ _).1 h
  simp only [Bool.and_eq_true, List.all_eq_true, decide_eq_true_eq, beq_iff_eq, Bool.not_eq_true',
    List.isEmpty_eq_false_iff, Option.isSome_iff_exists] at hall
  obtain ⟨⟨⟨⟨hgood, hbusy⟩, r, hend⟩, houtputs⟩, hfailures⟩ := hall
  have hopens : (titleBrief limit).Opens World.venue (listingWorld delay limit) := ⟨hlimit, rfl, Nat.zero_lt_one⟩
  have hnone : (World.ofSite (listing delay) ⟨[]⟩).browser.IsSound := fun p hp => absurd hp (Nat.not_lt_zero p)
  obtain ⟨R, hbrief, hstart, hstop⟩ := exists_crawlRun (listingSteady delay) rfl (Step.not_nested (b := false) rfl) hopens
    ⟨rfl, State.isSound_addPage hnone _ _⟩ (Crew.reaches_of_rehearse .refl hrun) hend hbusy (fun e he => (hgood e he).1)
    fun e he => (hgood e he).2
  refine ⟨R, congrArg Brief.limit hbrief, ?_, ?_, ?_⟩
  · change (listingSteady delay).place R.start.world R.brief.home = _
    rw [hstart, hbrief]
    rfl
  · rw [hstop, hstart]
    exact houtputs
  · rw [hstop, hstart]
    exact hfailures

/-- One page and no delay, or two pages and a delay: the files are reported in another order, and nothing else is
different. -/
theorem crawl_independent_of_schedule_listing :
    ∃ (R : CrawlRun (listingSteady 0) .root (some "a") none "href" titleSteps)
      (R' : CrawlRun (listingSteady 5) .root (some "a") none "href" titleSteps),
      R.brief.limit = 1 ∧ R'.brief.limit = 2 ∧
      R.Reports [⟨"", ["1.json"]⟩, ⟨"", ["3.json"]⟩] [⟨"http://a/2", .child .root 2, "boom"⟩] ∧
      R'.Reports [⟨"", ["3.json"]⟩, ⟨"", ["1.json"]⟩] [⟨"http://a/2", .child .root 2, "boom"⟩] ∧
      R.result = R'.result ∧ ∃ branches branches', R.Spreads branches ∧ R'.Spreads branches' ∧
        List.Forall₂ (R.SameBranch R') branches branches' := by
  obtain ⟨R, hlimit, hplace, hreports⟩ := exists_listingRun Nat.zero_lt_one
    (show lists (List.replicate 10 0 ++ List.replicate 21 1 ++ List.replicate 7 2 ++ List.replicate 14 3 ++ [0, 0, 0])
      0 1 ["1.json", "3.json"] = true by decide +kernel)
  obtain ⟨R', hlimit', hplace', hreports'⟩ := exists_listingRun Nat.zero_lt_two
    (show lists (List.replicate 10 0 ++ List.replicate 21 3 ++ List.replicate 7 2 ++ List.replicate 15 1 ++ [0, 0, 0])
      5 2 ["3.json", "1.json"] = true by decide +kernel)
  obtain ⟨hresult, branches, branches', -, -, -, -, ⟨hspreads, -⟩, ⟨hspreads', -⟩, hsame, -⟩ :=
    crawl_independent_of_schedule rfl R R' (hplace.trans hplace'.symm)
  exact ⟨R, R', hlimit, hlimit', hreports, hreports', hresult, branches, branches', hspreads, hspreads', hsame⟩

end BrowserPlan.Run
