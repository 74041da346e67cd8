import BrowserPlan.Proofs.Run.Isolation
import BrowserPlan.Proofs.Run.Unison

/-!
# Simple steps are carried out alone

Nobody but a task itself has to do with its simple steps (`alone_runSteps`), so a branch with simple steps
involves no other task. A crawl involves its branches only: it finds its links, starts a branch for each
of them and meets them (`crawl_path`).
-/
namespace BrowserPlan.Run

open BrowserPlan.Task BrowserPlan.Browser

/-! ## Nobody else is involved -/

theorem quiet_alone {F : Findings} {p : PageId} (d : Deed scene) (h : IsQuiet F p d) (_ : ¬ IsSpan d) :
    ¬ IsShared d := h.not_shared

theorem IsBorrowing.not_shared {d : Deed scene} (h : IsBorrowing d) : ¬ IsShared d := by
  cases h with
  | aside h | pause h => cases h <;> exact id
  | «open» h | limit hop h => exact h.not_shared
  | granted | pool => exact id

theorem alone_ask (q : Call) : Takes (¬ IsShared ·) (ask q) := .ask fun _ => id

section
variable (p : PageId)

/-- A simple step that repeats nothing. -/
theorem alone_stepBody {step : Step} (hsimple : step.isSimple = true) (hbody : step.body? = none)
    (index : IterationIndex) : Takes (¬ IsShared ·) (stepBody p index step) := by
  cases step with
  | click selector xpath condition =>
    obtain rfl : condition = none := Option.isNone_iff_eq_none.1 hsimple
    exact takes_named (.bind (takes_targetOf selector xpath) fun target =>
      .of_stays (Stays.onPage (F := fun _ _ => True) quiet_alone (.click target)))
  | type text selector xpath delay =>
    exact takes_named (.bind (takes_targetOf selector xpath) fun target =>
      .of_stays (Stays.onPage (F := fun _ _ => True) quiet_alone (.type target text delay)))
  | go place waitUntil timeout =>
    exact takes_named (.of_stays (stays_goTo (F := fun _ _ => True) quiet_alone place waitUntil timeout))
  | wait condition =>
    exact takes_named (.bind (.of_stays (stays_waitFor (F := fun _ _ => True) quiet_alone condition)) fun _ => .pure ())
  | scrape data path =>
    exact takes_named (.of_stays (stays_scrape quiet_alone (fun d _ => cover_anything d) index data path))
  | screenshot path fullPage =>
    exact takes_named (.of_stays (stays_takeScreenshot (F := fun _ _ => True) quiet_alone index path fullPage))
  | «repeat» | crawl => cases hbody

end

mutual

theorem alone_runSteps (p : PageId) {steps : List Step} (h : Step.allSimple steps = true)
    (index : IterationIndex) : Takes (¬ IsShared ·) (runSteps p index steps) := by
  match steps with
  | [] =>
    rw [runSteps]
    exact .pure ()
  | step :: rest =>
    rw [Step.allSimple, Bool.and_eq_true] at h
    rw [runSteps]
    exact Takes.bind (alone_runStep p h.1 index) fun _ => alone_runSteps p h.2 index

theorem alone_runStep (p : PageId) {step : Step} (h : step.isSimple = true) (index : IterationIndex) :
    Takes (¬ IsShared ·) (runStep p index step) := by
  rw [runStep_eq]
  refine Takes.bind (alone_ask _) fun _ => Takes.bind (alone_ask _) fun _ => ?_
  refine Takes.bind (alone_ask _) fun n => ?_
  refine Program.Avoids.ensuring ?_ fun _ => alone_ask _
  match step with
  | .click .. | .type .. | .go .. | .wait .. | .scrape .. | .screenshot .. => exact alone_stepBody p h rfl index
  | .repeat steps times =>
    rw [Step.isSimple] at h
    exact .count (fun _ => trivial) (fun n => alone_runSteps p h (index.child n)) times 1
  | .crawl .. => cases h

end

theorem alone_branch (link : String) (index : IterationIndex) {steps : List Step}
    (h : Step.allSimple steps = true) : Takes (¬ IsShared ·) (program (.branch link index steps)) := by
  have hfollow : Takes (¬ IsShared ·) (followLink link index steps) :=
    takes_lease (fun _ => IsBorrowing.not_shared) fun page =>
      Takes.bind (.of_stays (Stays.onPage (F := fun _ _ => True) quiet_alone (.goto link none none))) fun _ =>
        alone_runSteps page h index
  refine Takes.bind (p := branch link index steps) (Takes.attempt hfollow fun r => ?_) fun _ => .pure _
  match r with
  | .error (.failed fault) =>
    exact Takes.bind (alone_ask _) fun _ => Takes.bind (alone_ask _) fun _ => alone_ask _
  | .ok _ | .error .cancelled | .error .interrupted => exact .ending _

theorem alone_crawlLinks (p : PageId) (index : IterationIndex) (selector xpath : Option String)
    (attributeName : String) : Takes (¬ IsShared ·) (crawlLinks p index selector xpath attributeName) := by
  refine Takes.bind (.of_stays (stays_findLinks quiet_alone (fun d _ => cover_anything d) index selector xpath
    attributeName)) fun found => ?_
  refine Takes.bind (alone_ask _) fun base => ?_
  refine Takes.bind (.of_stays (stays_branchesOf (quiet_alone (F := fun _ _ => True) (p := p)) base index found 1))
    fun branches => ?_
  exact Takes.bind (alone_ask _) fun _ => .pure _

/-! ## The way of a step -/

section
variable {page : PageId} {index : IterationIndex} {ds : List (Deed scene)} {r : Outcome Fault Unit}

/-- How a step begins: it is noted, mentioned in the log, and gets a span. -/
def opening (action : Action) (index : IterationIndex) (span : Nat) : List (Deed scene) :=
  [.ask (.executed action) (),
    .ask (.log ⟨.debug, .interpreter, "Step " ++ action.name ++ " at index " ++ index.toString⟩) (),
    .ask (.openSpan action index) span]

/-- A step begins, does what it is for, and closes its span with the outcome of that. -/
theorem runStep_path {step : Step} (h : Program.Path (runStep page index step) ds (.done r)) :
    ∃ span body, ds = opening step.action index span ++
        (body ++ [.ask (.closeSpan span (SpanStatus.ofOutcome r)) ()]) ∧
      Program.Path (stepBody page index step) body (.done r) := by
  rw [runStep_eq] at h
  obtain ⟨_, _, rfl, hsay⟩ := ask_path h
  obtain ⟨_, _, rfl, hspan⟩ := ask_path hsay
  obtain ⟨span, _, rfl, hbody⟩ := ask_path hspan
  obtain ⟨body, ds₂, o, rfl, hpath, hclose⟩ := Program.Path.attempt_end hbody
  obtain ⟨_, _, rfl, hend⟩ := ask_path hclose
  obtain ⟨rfl, heq⟩ := hend.of_done
  cases heq
  exact ⟨span, body, rfl, hpath⟩

/-- What a step that fails with a fault is told to have failed with. -/
def Fault.named (action : Action) (index : IterationIndex) (fault : Fault) : Fault :=
  if fault.isOwn then fault else .step action index fault

/-- What a step ends with that says which step it is. -/
def ascribed (action : Action) (index : IterationIndex) : Outcome Fault Unit → Outcome Fault Unit
  | .error (.failed fault) => .error (.failed (fault.named action index))
  | r => r

theorem named_path {action : Action} {p : Program scene Unit}
    (h : Program.Path (named action index p) ds (.done r)) :
    ∃ o, Program.Path p ds (.done o) ∧ r = ascribed action index o := by
  obtain ⟨ds₁, ds₂, o, rfl, hpath, hend⟩ := Program.Path.attempt_end h
  have hends : Program.Path (.done (ascribed action index o) : Program scene Unit) ds₂ (.done r) := by
    match o with
    | .ok _ | .error .cancelled | .error .interrupted | .error (.failed _) => exact hend
  obtain ⟨rfl, heq⟩ := hends.of_done
  exact ⟨o, by rwa [List.append_nil], Program.done.inj heq⟩

end

/-! ## The way of a crawl -/

section
variable {ds : List (Deed scene)} {steps : List Step}

/-- A program that starts branches starts one for each link. -/
theorem starts_path {bs : List (String × IterationIndex)} {o : Outcome Fault (List TaskId)}
    (h : Program.Path (bs.mapM fun (link, here) => Program.start (I := scene) (.branch link here steps)) ds
      (.done o)) : ∃ branches : List Branching, bs = branches.map (fun x => (x.link, x.index)) ∧
      ds = branches.map (·.start steps) ∧ o = .ok (branches.map (·.task)) := by
  induction bs generalizing ds o with
  | nil =>
    obtain ⟨rfl, heq⟩ := h.of_done
    cases heq
    exact ⟨[], rfl, rfl, rfl⟩
  | cons b bs ih =>
    rw [List.mapM_cons] at h
    obtain ⟨t, es, rfl, hrest⟩ := Program.Path.of_fork h
    replace hrest : Program.Path ((bs.mapM fun (link, here) =>
        Program.start (I := scene) (.branch link here steps)).bind fun ts => .done (.ok (t :: ts))) es (.done o) := hrest
    rcases Program.Path.bind_end hrest with ⟨e, hstarts, -⟩ | ⟨ds₁, ds₂, ts, rfl, hstarts, hend⟩
    · obtain ⟨_, -, -, heq⟩ := ih hstarts
      cases heq
    · obtain ⟨branches, rfl, rfl, heq⟩ := ih hstarts
      cases heq
      obtain ⟨rfl, heq⟩ := hend.of_done
      cases heq
      refine ⟨⟨b.1, b.2, t⟩ :: branches, rfl, ?_, rfl⟩
      rw [List.append_nil]
      rfl

/-- What a crawl does when it has looked for its links: it starts a branch for each that it has found,
and meets them. -/
inductive CrawlEnds (steps : List Step) :
    Outcome Fault (List (String × IterationIndex)) → List (Deed scene) → Outcome Fault Unit → Prop where
  | lost (e) : CrawlEnds steps (.error e) [] (.error e)
  | met (branches : List Branching) (r) : CrawlEnds steps (.ok (branches.map fun x => (x.link, x.index)))
    (branches.map (·.start steps) ++ [.meet (branches.map (·.task)) false r]) r

/-- The way of a crawl: it begins, looks for its links, starts its branches and meets them, and is over. -/
structure CrawlPath (page : PageId) (index : IterationIndex) (selector xpath : Option String) (attributeName : String)
    (steps : List Step) (ds : List (Deed scene)) (r : Outcome Fault Unit) where
  span : Nat
  links : List (Deed scene)
  found : Outcome Fault (List (String × IterationIndex))
  rest : List (Deed scene)
  eq : ds = opening .crawl index span ++ (links ++ (rest ++ [.ask (.closeSpan span (SpanStatus.ofOutcome r)) ()]))
  path : Program.Path (crawlLinks page index selector xpath attributeName) links (.done found)
  ends : CrawlEnds steps found rest r

theorem crawl_path {page : PageId} {index : IterationIndex} {selector xpath : Option String}
    {attributeName : String} {r : Outcome Fault Unit}
    (h : Program.Path (runStep page index (.crawl selector xpath attributeName steps)) ds (.done r)) :
    Nonempty (CrawlPath page index selector xpath attributeName steps ds r) := by
  obtain ⟨n, body, rfl, hcrawl⟩ := runStep_path h
  rw [stepBody, crawl_eq] at hcrawl
  rcases Program.Path.bind_end hcrawl with ⟨e, hlinks, rfl⟩ | ⟨links, rest, bs, rfl, hlinks, hrest⟩
  · exact ⟨⟨n, body, _, [], rfl, hlinks, .lost e⟩⟩
  · rcases Program.Path.bind_end hrest with ⟨e, hstarts, -⟩ | ⟨ds₃, ds₄, ts, rfl, hstarts, hmeet⟩
    · obtain ⟨_, -, -, heq⟩ := starts_path hstarts
      cases heq
    · obtain ⟨branches, rfl, rfl, heq⟩ := starts_path hstarts
      cases heq
      obtain ⟨r, _, rfl, hend⟩ := Program.Path.of_gather hmeet
      obtain ⟨rfl, heq⟩ := hend.of_done
      cases heq
      exact ⟨⟨n, links, _, _, by rw [List.append_assoc]; rfl, hlinks, .met branches r⟩⟩

section
variable {page : PageId} {index : IterationIndex} {selector xpath : Option String} {attributeName : String}
  {r : Outcome Fault Unit}

/-- A crawl that has not found its links starts nobody and ends so. -/
structure CrawlPath.IsLost (hpath : CrawlPath page index selector xpath attributeName steps ds r) (e : Stop Fault) :
    Prop where
  found : hpath.found = .error e
  result : r = .error e
  starts : (ds.filter fun d => d.started?.isSome) = []

/-- A crawl that has found its links starts a branch for each, and nobody else, and meets them. -/
structure CrawlPath.Starts (hpath : CrawlPath page index selector xpath attributeName steps ds r)
    (branches : List Branching) : Prop where
  found : hpath.found = .ok (branches.map fun x => (x.link, x.index))
  starts : (ds.filter fun d => d.started?.isSome) = branches.map (·.start steps)
  meets : ∃ pre post, ds = pre ++ (branches.map (·.start steps) ++ .meet (branches.map (·.task)) false r :: post)

theorem CrawlPath.lost_or_starts (hpath : CrawlPath page index selector xpath attributeName steps ds r) :
    (∃ e, hpath.IsLost e) ∨ ∃ branches, hpath.Starts branches := by
  obtain ⟨n, links, found, rest, rfl, hfind, hends⟩ := hpath
  have hlinks : (links.filter fun d => d.started?.isSome) = [] := by
    refine List.filter_eq_nil_iff.2 fun d hd hsome => ?_
    refine (alone_crawlLinks page index selector xpath attributeName).path hfind d hd ?_
    cases d <;> trivial
  cases hends with
  | lost e =>
    refine .inl ⟨e, rfl, rfl, ?_⟩
    rw [List.filter_append, List.filter_append, hlinks]
    rfl
  | met branches r =>
    have hmeets : ∀ (pre post : List (Deed scene)) (d : Deed scene),
        pre ++ (links ++ (branches.map (·.start steps) ++ [d] ++ post)) =
          (pre ++ links) ++ (branches.map (·.start steps) ++ d :: post) := by simp
    refine .inr ⟨branches, rfl, ?_, _, _, hmeets _ _ _⟩
    rw [List.filter_append, List.filter_append, List.filter_append, hlinks, List.filter_append, List.filter_map]
    simp [opening, Deed.started?, Function.comp_def, Branching.start]

end

/-- What a program does before it hands back a value, it does all the same. -/
theorem path_before_pure {α β : Type} {p : Program scene α} {f : α → β} {ds : List (Deed scene)} {r : Outcome Fault β}
    (h : Program.Path (p >>= fun a => pure (f a)) ds (.done r)) : ∃ r', Program.Path p ds (.done r') := by
  rcases Program.Path.bind_end h with ⟨e, hpath, -⟩ | ⟨ds₁, ds₂, a, rfl, hpath, hrest⟩
  · exact ⟨_, hpath⟩
  · obtain ⟨rfl, -⟩ := hrest.of_done
    exact ⟨_, by rwa [List.append_nil]⟩

theorem single_step_path {page : PageId} {index : IterationIndex} {step : Step} {r : Outcome Fault Yield}
    (h : Program.Path (program (.steps page [step] index)) ds (.done r)) :
    ∃ r', Program.Path (runStep page index step) ds (.done r') := by
  obtain ⟨r₁, h⟩ := path_before_pure (p := runSteps page index [step]) (f := fun _ => Yield.nothing) h
  simp only [runSteps] at h
  exact path_before_pure (f := id) h

end

end BrowserPlan.Run
